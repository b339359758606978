/-! Names of characters from 2000 to 2BFF: punctuation and symbols. -/
namespace FloScript.Text.CharName

/-- Rows of a table of abbreviated names. -/
def symbols : String :=
  "2000/|EN;EM| |qa;ab
   2004||THREE-PER-EM ab;FOUR-PER-EM ab;SIX-PER-EM ab;FIGURE ab;pu ab;THIN ab;HAIR ab
   200B|ze WIDTH |ab;NON-JOINER;JOINER
   200E||lk k;RIGHT-TO-LEFT k;hy;NON-BREAKING hy;FIGURE df;EN df;EM df;hr ba;d ve lb;d lw lb;e sn qo k;r sn qo k;
     sn LOW-9 qo k;sn HIGH-REVERSED-9 qo k;e d qo k;r d qo k;d LOW-9 qo k;d HIGH-REVERSED-9 qo k;DAGGER;d DAGGER;bx;
     tq bx;o i LEADER
   2025||t i LEADER;hr iy;HYPHENATION POINT;lb sp;PARAGRAPH sp;lk EMBEDDING;RIGHT-TO-LEFT EMBEDDING;
     POP DIRECTIONAL FORMATTING;lk OVERRIDE;RIGHT-TO-LEFT OVERRIDE;NARROW NO-BREAK ab;PER MILLE s;PER te th s;PRIME;
     d PRIME;tp PRIME;re PRIME;re d PRIME;re tp PRIME;CARET;sn lf an qo k;sn rg an qo k;REFERENCE k;d ex k;
     INTERROBANG;on;UNDERTIE;gv TIE;CARET INSERTION POINT;ASTERISM;hy bx;fc bi;e sq bc w QUILL;r sq bc w QUILL;d qe k;
     qe ex k;ex qe k;TIRONIAN s ET;re PILCROW s;p le bx;p ri bx;lw at;re ee;CLOSE UP;t ASTERISKS ALIGNED vt;
     COMMERCIAL ms s;SWUNG df;iv UNDERTIE;FLOWER pu k;h i pu;qp PRIME;u i pu;fi i pu;t i pu;u i k;dc cs;TRICOLON;
     ve u dt;md ma ab;WORD JOINER;FUNCTION APPLICATION
   2062|INVISIBLE |j;sp;pl
   2066||lk ISOLATE;RIGHT-TO-LEFT ISOLATE;FIRST STRONG ISOLATE;POP DIRECTIONAL ISOLATE
   206A/|INHIBIT;ACTIVATE| |SYMMETRIC SWAPPING;q f SHAPING
   206E||NATIONAL di SHAPES;NOMINAL di SHAPES;ed ze;ed v m l I
   2074|ed |u;fi;si;se;ei;ni;pl s;ms;eu s;e pa;r pa;v m l N
   2080|jt |ze;o;t;h;u;fi;si;se;ei;ni;pl s;ms;eu s;e pa;r pa
   2090|v jt m l |A;E;O;X;SCHWA;H;K;L;M;N;P;S;T
   20A0||EURO-CURRENCY s;cd s;CRUZEIRO s;FRENCH FRANC s;LIRA s;MILL s;NAIRA s;PESETA s;RUPEE s;WON s;NEW SHEQEL s;
     DONG s;EURO s;KIP s;TUGRIK s;DRACHMA s;GERMAN PENNY s;PESO s;GUARANI s;AUSTRAL s;HRYVNIA s;CEDI s;
     LIVRE TOURNOIS s;SPESMILO s;TENGE s;INDIAN RUPEE s;TURKISH LIRA s;NORDIC k s;MANAT s;RUBLE s;LARI s;BITCOIN s;
     SOM s
   20D0|co |e hp b;r hp b;ln ve lb oa;sr ve lb oa;ak a b;bq a b;e a b;r a b;rn oa;bq rn oa;ak rn oa;h dt b;u dt b;
     jq ci;jq sq;jq dm;jq ci jm;e r a b;jq SCREEN;jq KEYCAP;jq UPWARD po ti;rv sw oa;d ve st oa;ANNUITY y;tp UNDERDOT;
     WIDE BRIDGE b;le a oa;ln d sw oa;ri hp w br dw;le hp w br dw;e a g;r a g;at b
   2100||ACCOUNT OF;ADDRESSED TO tf SUBJECT;du c C;DEGREE CELSIUS;ce lb y;CARE OF;CADA UNA;EULER CONSTANT;SCRUPLE;
     DEGREE FAHRENHEIT;sc m G;sc c H;kf c H;du c H
   210E|PLANCK CONSTANT|; ov t PI
   2110||sc c I;kf c I;sc c L;sc m L;L B ba y;du c N;NUMERO s;bu RECORDING COPYRIGHT;sc c P;du c P;du c Q;sc c R;
     kf c R;du c R;PRESCRIPTION TAKE;RESPONSE;SERVICE k;tz s;TRADE k s;VERSICLE;du c Z;OUNCE s;OHM s;iv OHM s;kf c Z;
     tr gr m l io;KELVIN s;ANGSTROM s;sc c B;kf c C;ESTIMATED y;sc m E;sc c E;sc c F;tr c F;sc c M;sc m O;al y;BET y;
     gb y;DALET y;INFORMATION SOURCE;ro c Q;FACSIMILE s
   213C|du |m PI;m GAMMA;c GAMMA;c PI;N-ARY SUMMATION
   2141|tr ss c |G;L
   2143||re ss c L;tr ss c Y
   2145|du ia |c D;m D;m E;m I;m J
   214A||PROPERTY lb;tr ih;PER s;AKTIESELSKAB;tr m F;y fo fv SOURCE
   2150|VULGAR fc |o SEVENTH;o NINTH;o TENTH;o THIRD;t THIRDS;o FIFTH;t FIFTHS;h FIFTHS;u FIFTHS;o SIXTH;fi SIXTHS;
     o eh;h es;fi es;se es
   215F|fc NUMERATOR o|
   2160||ROMAN nl ;m ROMAN nl |o;t;h;u;fi;si;se;ei;ni;te;ELEVEN;ej;ff;o hu;fi hu;o th
   2180|ROMAN nl |o th C D;fi th;te th;re o hu
   2184|v m l re C|
   2185|ROMAN nl |si LATE f;ff EARLY f;ff th;o hu th
   2189||VULGAR fc ze THIRDS;tr di t;tr di h
   2190||le a;uw a;ri a;dw a;e r a;UP do a;no ws a;no ea a;su ea a;su ws a
   219A/|le;ri| |a w st;wa a
   219E||le t HEADED a;uw t HEADED a;ri t HEADED a;dw t HEADED a;le a w tc;ri a w tc;le a fr ba;uw a fr ba;
     ri a fr ba;dw a fr ba;UP do a w BASE
   21A9/|le;ri| a w |ho;LOOP
   21AD||e r wa a;e r a w st;dw ZIGZAG a
   21B0||uw a w TIP ;dw a w TIP |le;ri
   21B4||ri a w cf dw;dw a w cf le;ak tg SEMICIRCLE a;bq tg SEMICIRCLE a;no ws a TO ln ba;le a TO ba ov ri a TO ba;
     ak op ci a;bq op ci a
   21BC|le hp w br |uw;dw
   21BE|uw hp w br |ri;le
   21C0|ri hp w br |uw;dw
   21C2|dw hp w br |ri;le
   21C4||ri a ov le a;uw a le OF dw a;le a ov ri a;le PAIRED ax;uw PAIRED ax;ri PAIRED ax;dw PAIRED ax;
     le hp ov ri hp;ri hp ov le hp;le d a w st;e r d a w st;ri d a w st;le d a;uw d a;ri d a;dw d a;e r d a;UP do d a;
     no ws d a;no ea d a;su ea d a;su ws d a
   21DA/|le;ri| |tp a;SQUIGGLE a
   21DE||uw a w d st;dw a w d st;le eb a;uw eb a;ri eb a;dw eb a;le a TO ba;ri a TO ba;le z a;uw z a;ri z a;dw z a;
     uw z a fr ba
   21EB|uw z a ON PEDESTAL|; w hr ba; w ve ba
   21EE|uw z d a|; ON PEDESTAL
   21F0||ri z a fr WALL;no ws a TO cf;su ea a TO cf;UP do z a;r a w m ci;dw a le OF uw a;h ri ax;le a w ve st;
     ri a w ve st;e r a w ve st;le a w d ve st;ri a w d ve st;e r a w d ve st;le OPEN-HEADED a;ri OPEN-HEADED a;
     e r OPEN-HEADED a;fo ALL;COMPLEMENT;PARTIAL DIFFERENTIAL;THERE EXISTS;THERE DOES nt EXIST;EMPTY SET;INCREMENT;
     NABLA;fp OF;nt AN fp OF;m fp OF;ip AS MEMBER;DOES nt CONTAIN AS MEMBER;m ip AS MEMBER;END OF PROOF;N-ARY pd;
     N-ARY COPRODUCT;N-ARY SUMMATION;ms s;MINUS-OR-PLUS s;i pl;iw bi;SET ms;at oe;rn oe;bx oe;sq ROOT;CUBE ROOT;
     FOURTH ROOT;PROPORTIONAL TO;INFINITY;r an;an;MEASURED an;SPHERICAL an;DIVIDES;DOES nt DIVIDE;pb TO;nt pb TO
   2227||lc n;lc OR;ir;ui;it;d it;tp it;CONTOUR it;SURFACE it;VOLUME it;bq it;bq CONTOUR it;ak CONTOUR it;THEREFORE;
     BECAUSE;RATIO;PROPORTION;i ms;EXCESS;GEOMETRIC PROPORTION;HOMOTHETIC;tl oe;re tl;iv LAZY S;SINE wa;WREATH pd;
     nt tl;ms tl;ASYMPTOTICALLY eq TO;nt ASYMPTOTICALLY eq TO;kc eq TO;kc BUT nt ACTUALLY eq TO;
     NEITHER kc NOR ACTUALLY eq TO;dz eq TO;nt dz eq TO;dz eq OR eq TO;tp tl;ALL eq TO;ev TO;GEOMETRICALLY ev TO;
     DIFFERENCE bw;APPROACHES tf LIMIT;GEOMETRICALLY eq TO;kc eq TO OR tf IMAGE OF;IMAGE OF OR kc eq TO;cd eu;eu cd;
     rn IN eq TO;rn eq TO;CORRESPONDS TO;ESTIMATES;EQUIANGULAR TO;sa eu;DELTA eq TO;eq TO BY DEFINITION;MEASURED BY;
     QUESTIONED eq TO;nt eq TO;IDENTICAL TO;nt IDENTICAL TO;STRICTLY ev TO
   2264/|ls;ge| |OR eq TO;ov eq TO;BUT nt eq TO
   226A||MUCH ls;MUCH ge;bw;nt ev TO;nt ls;nt ge;NEITHER ls NOR eq TO;NEITHER ge NOR eq TO;ls OR ev TO;ge OR ev TO;
     NEITHER ls NOR ev TO;NEITHER ge NOR ev TO;ls OR ge;ge OR ls;NEITHER ls NOR ge;NEITHER ge NOR ls;PRECEDES;SUCCEEDS
   227C/|PRECEDES;SUCCEEDS| OR e|q TO;v TO
   2280|DOES nt |PRECEDE;SUCCEED
   2282||f;nt A f|e OF;z OF
   2286|f|e OF OR eq TO;z OF OR eq TO
   2288|NEITHER A f|e OF NOR eq TO;z OF NOR eq TO
   228A|f|e OF w nt eq TO;z OF w nt eq TO
   228C|MULTISET|; mp; ui
   228F/sq |IMAGE;ORIGINAL| OF|; OR eq TO
   2293|sq C|AP;UP
   2295|cr |pl;ms;j;iw bi;i oe;rn oe;at oe;eu;df
   229E|sd |pl;ms;j;i oe
   22A2||r tk;e tk;do tk;UP tk;ASSERTION;MODELS;TRUE;FORCES;tp ve ba r jl;d ve ba d r jl;DOES nt PROVE;nt TRUE;
     DOES nt FORCE;NEGATED d ve ba d r jl;PRECEDES UNDER RELATION;SUCCEEDS UNDER RELATION;NORMAL jj OF;
     ip AS NORMAL jj;NORMAL jj OF OR eq TO;ip AS NORMAL jj OR eq TO;ORIGINAL OF;IMAGE OF;MULTIMAP;
     HERMITIAN CONJUGATE MATRIX;INTERCALATE;XOR;NAND;NOR;r an w ARC;r ti
   22C0|N-ARY |lc n;lc OR;ir;ui
   22C4||dm oe;i oe;sa oe;iw j;BOWTIE
   22C9/|e;r| |NORMAL FACTOR SEMIDIRECT pd;SEMIDIRECT pd
   22CD||re tl eu;cq lc OR;cq lc n;d fe;d fz;d ir;d ui;PITCHFORK;eq n pb TO;ls w i;ge w i;vr MUCH ls;vr MUCH ge;
     ls eq TO OR ge;ge eq TO OR ls
   22DC|eq TO OR |ls;ge;PRECEDES;SUCCEEDS
   22E0|DOES nt |PRECEDE OR eq;SUCCEED OR eq
   22E2||nt sq IMAGE OF OR eq TO;nt sq ORIGINAL OF OR eq TO;sq IMAGE OF OR nt eq TO;sq ORIGINAL OF OR nt eq TO;
     ls BUT nt ev TO;ge BUT nt ev TO;PRECEDES BUT nt ev TO;SUCCEEDS BUT nt ev TO;nt NORMAL jj OF;
     DOES nt CONTAIN AS NORMAL jj;nt NORMAL jj OF OR eq TO;DOES nt CONTAIN AS NORMAL jj OR eq;ve iy;MIDLINE hr iy;
     UP r da iy;do r da iy;fp OF w ln hr st;fp OF w ve ba AT END OF hr st;m fp OF w ve ba AT END OF hr st;fp OF w i b;
     fp OF w ob;m fp OF w ob;fp OF w un;fp OF w t hr STROKES;ip w ln hr st;ip w ve ba AT END OF hr st;
     m ip w ve ba AT END OF hr st;ip w ob;m ip w ob;Z nf BAG MEMBERSHIP;DIAMETER s;ELECTRIC a;HOUSE;UP ar;do ar;
     PROJECTIVE;PERSPECTIVE;WAVY lb
   2308/|e;r| |CEILING;FLOOR
   230C||bt ;tg |r CROP;e CROP
   2310||re nt s;sq lz;ARC;SEGMENT;SECTOR;tz RECORDER;POSITION jg;VIEWDATA sq;PLACE OF INTEREST s;tr nt s;WATCH;
     HOURGLASS
   231C||tg ;bt |e cf;r cf
   2320||tg ha it;bt ha it;FROWN;SMILE;UP ar bw t hr BARS;OPTION KEY;ERASE TO tf r;X IN A RECTANGLE BOX;KEYBOARD;
     lf an bc;rg an bc;ERASE TO tf e;BENZENE rn;CYLINDRICITY;ALL AROUND-PROFILE;SYMMETRY;TOTAL RUNOUT;
     DIMENSION ORIGIN;CONICAL TAPER;SLOPE
   2334|COUNTER|BORE;SINK
   2336|APL FUNCTIONAL y |I-BEAM;SQUISH qa;qa eq;qa DIVIDE;qa dm;qa JOT;qa ci;ci STILE;ci JOT;bi ba;jm ba;qa bi;
     qa jm;qa ls;qa ge;le VANE;ri VANE;qa le a;qa ri a;ci jm;do tk un;DELTA STILE;qa do CARET;qa DELTA;do tk JOT;
     uw VANE;qa uw a;UP tk ob;DEL STILE;qa UP CARET;qa DEL;UP tk JOT;dw VANE;qa dw a;QUOTE un;DELTA un;dm un;JOT un;
     ci un;UP SHOE JOT;QUOTE qa;ci sa;qa cd;UP tk de;DEL de;sa de;JOT de;ci de;do SHOE STILE;e SHOE STILE;tl de;ge de;
     cm ba;DEL tl;ZILDE;STILE tl;ee un;qa nt eq;qa qe;do CARET tl;UP CARET tl;io;RHO;om;ap un;ep un;io un;om un;ap
   237B||nt CHECK k;r an w dw ZIGZAG a;SHOULDERED op BOX;BELL y;ve lb w mi i;INSERTION y;CONTINUOUS UNDERLINE y;
     DISCONTINUOUS UNDERLINE y;EMPHASIS y;COMPOSITION y;z sq w ce ve lb;ENTER y;ALTERNATIVE KEY y;HELM y;
     cr hr ba w NOTCH;cr ti do;BROKEN ci w NORTHWEST a;UNDO y;MONOSTABLE y;HYSTERESIS y
   238F|OPEN-CIRCUIT-OUTPUT |H-TYPE y;L-TYPE y
   2391|PASSIVE-PULL-|DOWN-OUTPUT y;UP-OUTPUT y
   2393||DIRECT CURRENT y f t;SOFTWARE-FUNCTION y;APL FUNCTIONAL y qa;DECIMAL sp KEY y;PREVIOUS PAGE;NEXT PAGE;
     PRINT SCREEN y;CLEAR SCREEN y
   239B||e pa ;r pa |up ho;EXTENSION;lo ho
   23A1||e sq bc ;r sq bc |up cf;EXTENSION;lo cf
   23A7|e cq bc |up ho;mi PIECE;lo ho
   23AA|cq bc EXTENSION|
   23AB|r cq bc |up ho;mi PIECE;lo ho
   23AE||it EXTENSION;hr lb EXTENSION;up e OR lo r cq bc sj;up r OR lo e cq bc sj;SUMMATION tg;SUMMATION bt;
     tg sq bc;bt sq bc;bt sq bc ov tg sq bc;rd y bt;e ve BOX lb;r ve BOX lb
   23BA|hr SCAN LINE-|1;3;7;9
   23BE|DENTISTRY y li |ve n tg r;ve n bt r;ve w ci;do n hr w ci;UP n hr w ci;ve w ti;do n hr w ti;UP n hr w ti;
     ve n wa;do n hr w wa;UP n hr w wa;do n hr;UP n hr;ve n tg e;ve n bt e
   23CD||sq FOOT;RETURN y;EJECT y;ve lb EXTENSION
   23D1|METRICAL |be;ln ov sr;sr ov ln;ln ov t SHORTS;t SHORTS ov ln;t SHORTS JOINED;TRISEME;TETRASEME;PENTASEME
   23DA||EARTH GROUND;FUSE
   23DC/|tg;bt| |pa;cq bc;ef af bc
   23E2||z TRAPEZIUM;BENZENE rn w ci;STRAIGHTNESS;FLATNESS;AC CURRENT;ELECTRICAL ir;DECIMAL EXPONENT y;p rg d ti;
     p lf d ti;p uo d ti;p gz d ti;p rg d ti w ve ba;p lf d ti w ve ba;p rg ti w d ve ba;ALARM CLOCK;STOPWATCH;
     TIMER CLOCK;HOURGLASS w FLOWING SAND
   23F4|p md |lf ti;rg ti;uo ti;gz ti
   23F8||d ve ba;p sq fo so;p ci fo RECORD
   23FB|POWER |y;ON-OFF y;ON y;SLEEP y
   23FF|OBSERVER EYE y|
   2400|y fo |NULL;START OF HEADING;START OF TEXT;END OF TEXT;END OF TRANSMISSION;ENQUIRY;ACKNOWLEDGE;BELL;
     BACKSPACE;hr TABULATION;lb FEED;ve TABULATION;f FEED;CARRIAGE RETURN;SHIFT OUT;SHIFT IN;DATA LINK ESCAPE
   2411|y fo DEVICE CONTROL |o;t;h;u
   2415|y fo |nv ACKNOWLEDGE;SYNCHRONOUS IDLE;END OF TRANSMISSION bl;CANCEL;END OF md;SUBSTITUTE;ESCAPE;FILE sp;
     GROUP sp;RECORD sp;UNIT sp;ab;DELETE
   2422||BLANK y;op BOX
   2424|y fo |NEWLINE;DELETE f t;SUBSTITUTE f t
   2440|OCR |ho;CHAIR;FORK;iv FORK;BELT BUCKLE;BOW TIE;BRANCH BANK IDENTIFICATION;AMOUNT OF CHECK;df;
     CUSTOMER ACCOUNT nu;d jm
   2460||cr ;pz |di o;di t;di h;di u;di fi;di si;di se;di ei;di ni;nu te;nu ELEVEN;nu ej;nu THIRTEEN;nu FOURTEEN;
     nu fq;nu hv;nu js;nu ix;nu NINETEEN;nu tw
   2488|di |o fu so;t fu so;h fu so;u fu so;fi fu so;si fu so;se fu so;ei fu so;ni fu so
   2491|nu |te fu so;ELEVEN fu so;ej fu so;THIRTEEN fu so;FOURTEEN fu so;fq fu so;hv fu so;js fu so;ix fu so;
     NINETEEN fu so;tw fu so
   249C||pz v m l ;cr v c l ;cr v m l |A;B;C;D;E;F;G;H;I;J;K;L;M;N;O;P;Q;R;S;T;U;V;W;X;Y;Z
   24EA|cr di ze|
   24EB|nv cr nu |ELEVEN;ej;THIRTEEN;FOURTEEN;fq;hv;js;ix;NINETEEN;tw
   24F5|d cr di |o;t;h;u;fi;si;se;ei;ni
   24FE||d cr nu te;nv cr di ze
   2500/BOX ec |li;he| |hr;ve;tp df hr;tp df ve;qp df hr;qp df ve
   250C|BOX ec |li do n r;do li n r he;do he n r li;he do n r;li do n e;do li n e he;do he n e li;he do n e;
     li UP n r;UP li n r he;UP he n r li;he UP n r;li UP n e;UP li n e he;UP he n e li;he UP n e;li ve n r;
     ve li n r he;UP he n r do li;do he n r UP li;ve he n r li;do li n r UP he;UP li n r do he;he ve n r;li ve n e;
     ve li n e he;UP he n e do li;do he n e UP li;ve he n e li;do li n e UP he;UP li n e do he;he ve n e;li do n hr;
     e he n r do li;r he n e do li;do li n hr he;do he n hr li;r li n e do he;e li n r do he;he do n hr;li UP n hr;
     e he n r UP li;r he n e UP li;UP li n hr he;UP he n hr li;r li n e UP he;e li n r UP he;he UP n hr;li ve n hr;
     e he n r ve li;r he n e ve li;ve li n hr he;UP he n do hr li;do he n UP hr li;ve he n hr li;e UP he n r do li;
     r UP he n e do li;e do he n r UP li;r do he n e UP li;do li n UP hr he;UP li n do hr he;r li n e ve he;
     e li n r ve he;he ve n hr;li d df hr;he d df hr;li d df ve;he d df ve;d hr;d ve;do sn n r d;do d n r sn;d do n r;
     do sn n e d;do d n e sn;d do n e;UP sn n r d;UP d n r sn;d UP n r;UP sn n e d;UP d n e sn;d UP n e;ve sn n r d;
     ve d n r sn;d ve n r;ve sn n e d;ve d n e sn;d ve n e;do sn n hr d;do d n hr sn;d do n hr;UP sn n hr d;
     UP d n hr sn;d UP n hr;ve sn n hr d;ve d n hr sn;d ve n hr
   256D|BOX ec li ARC |do n r;do n e;UP n e;UP n r
   2571|BOX ec li da |up r TO lo e;up e TO lo r;cs
   2574|BOX ec |li ;he |e;UP;r;do
   257C|BOX ec |li e n he r;li UP n he do;he e n li r;he UP n li do
   2580|up ha bl|
   2581|lo |o eh bl;o qu bl;h es bl;ha bl;fi es bl;h qr bl;se es bl
   2588||fu bl;e se es bl;e h qr bl;e fi es bl;e ha bl;e h es bl;e o qu bl;e o eh bl;r ha bl;li bs;md bs;DARK bs;
     up o eh bl;r o eh bl;qd lo e;qd lo r
   2598|qd up |e;e n lo e n lo r;e n lo r;e n up r n lo e;e n up r n lo r;r;r n lo e;r n lo e n lo r
   25A0|p sq|
   25A1|z sq|; w ru CORNERS; jn p m sq
   25A4|sq w |hr FILL;ve FILL;ORTHOGONAL CROSSHATCH FILL;up e TO lo r FILL;up r TO lo e FILL;da CROSSHATCH FILL
   25AA/|p;z| |m sq;RECTANGLE;ve RECTANGLE;PARALLELOGRAM;uo ti;uo m ti;rg ti;rg m ti;rg POINTER;gz ti;gz m ti;lf ti;
     lf m ti;lf POINTER;dm
   25C8||z dm jn p m dm;FISHEYE;lz;z ci;dc ci;ci w ve FILL;BULLSEYE;p ci
   25D0|ci w |e ha p;r ha p;lo ha p;up ha p;up r qd p;ALL BUT up e qd p
   25D6||e ha p ci;r ha p ci;ib bx;ib z ci;up ha ib z ci;lo ha ib z ci;up e qd CIRCULAR ARC;up r qd CIRCULAR ARC;
     lo r qd CIRCULAR ARC;lo e qd CIRCULAR ARC;up ha ci;lo ha ci;p lo r ti;p lo e ti;p up e ti;p up r ti;z bx
   25E7|sq w |e ha p;r ha p;up e da ha p;lo r da ha p
   25EB||z sq w ve BISECTING lb;z uo ti w i;uo ti w e ha p;uo ti w r ha p;la ci
   25F0|z |sq w ;ci w |up e qd;lo e qd;lo r qd;up r qd
   25F8||up e ti;up r ti;lo e ti
   25FB/|z;p| md |sq;m sq
   25FF||lo r ti;p SUN w RAYS;CLOUD;UMBRELLA;SNOWMAN;COMET;p sa;z sa;LIGHTNING;THUNDERSTORM;SUN;ASCENDING NODE;
     DESCENDING NODE;CONJUNCTION;OPPOSITION;p tz;z tz
   2610|BALLOT BOX|; w CHECK; w X
   2613||ez;UMBRELLA w RAIN DROPS;HOT BEVERAGE;z SHOGI PIECE;p SHOGI PIECE;SHAMROCK;re ro FLORAL hb bx;p e po id;
     p r po id;z e po id;z UP po id;z r po id;z do po id;SKULL n CROSSBONES;CAUTION s;RADIOACTIVE s;BIOHAZARD s;
     CADUCEUS;ANKH;ORTHODOX cs;CHI RHO;cs OF LORRAINE;cs OF JERUSALEM;sa n CRESCENT;FARSI y;ADI SHAKTI;
     HAMMER n SICKLE;PEACE y;YIN YANG
   2630|TRIGRAM fo |HEAVEN;LAKE;FIRE;THUNDER;WIND;wt;mb;EARTH
   2638||WHEEL OF DHARMA;z FROWNING fa;z ag fa;p ag fa;z SUN w RAYS;FIRST qu mn;LAST qu mn;MERCURY;FEMALE s;EARTH;
     MALE s;JUPITER;SATURN;URANUS;NEPTUNE;PLUTO;ARIES;TAURUS;GEMINI;CANCER;LEO;VIRGO;LIBRA;SCORPIUS;SAGITTARIUS;
     CAPRICORN;AQUARIUS;PISCES
   2654||z cb ;p cb |KING;QUEEN;ROOK;BISHOP;kn;PAWN
   2660||p SPADE SUIT;z hb SUIT;z dm SUIT;p CLUB SUIT;z SPADE SUIT;p hb SUIT;p dm SUIT;z CLUB SUIT;HOT SPRINGS;
     qu nc;eh nc
   266B|BEAMED |eh NOTES;SIXTEENTH NOTES
   266D|MUSIC |FLAT s;NATURAL s;SHARP s
   2670||ws dx cs;ea dx cs;UNIVERSAL RECYCLING y
   2673|RECYCLING y fo TYPE-|1 PLASTICS;2 PLASTICS;3 PLASTICS;4 PLASTICS;5 PLASTICS;6 PLASTICS;7 PLASTICS
   267A||RECYCLING y fo GENERIC MATERIALS;p UNIVERSAL RECYCLING y;RECYCLED PAPER y;PARTIALLY-RECYCLED PAPER y;
     PERMANENT PAPER s;WHEELCHAIR y
   2680|DIE FACE-|1;2;3;4;5;6
   2686|z ci w |i r;t dt
   2688|p ci w |z i r;t z dt
   268A|MONOGRAM fo Y|ANG;IN
   268C|DIGRAM fo |GREATER YANG;LESSER YIN;LESSER YANG;GREATER YIN
   2690||z FLAG;p FLAG;HAMMER n PICK;ANCHOR;er SWORDS;STAFF OF AESCULAPIUS;SCALES;ALEMBIC;FLOWER;GEAR;
     STAFF OF HERMES;ATOM y;FLEUR-DE-LIS;OUTLINED z sa
   269E|h LINES CONVERGING |r;e
   26A0||WARNING s;hi VOLTAGE s;DOUBLED FEMALE s;DOUBLED MALE s;INTERLOCKED FEMALE n MALE s;MALE n FEMALE s;
     MALE w st s;MALE w st n MALE n FEMALE s;ve MALE w st s;hr MALE w st s;md z ci;md p ci;md m z ci;MARRIAGE y;
     DIVORCE y;UNMARRIED PARTNERSHIP y;COFFIN;FUNERAL URN;NEUTER;CERES;PALLAS;JUNO;VESTA;CHIRON;p mn LILITH;SEXTILE;
     SEMISEXTILE;QUINCUNX;SESQUIQUADRATE;SOCCER BALL;BASEBALL;sd KEY
   26C0||z DRAUGHTS ;p DRAUGHTS |MAN;KING
   26C4||SNOWMAN WITHOUT SNOW;SUN BEHIND CLOUD;RAIN;p SNOWMAN;THUNDER CLOUD n RAIN;tr z SHOGI PIECE;
     tr p SHOGI PIECE;z dm IN sq;cn LANES;DISABLED CAR;OPHIUCHUS;PICK;CAR SLIDING;HELMET w z cs;cr cn LANES;CHAINS;
     NO ENTRY;aa ONE-WAY e WAY TRAFFIC
   26D6/|p;z| |TWO-WAY e WAY TRAFFIC;e LANE MERGE
   26DA||DRIVE SLOW s;he z gz ti;e cl ENTRY;sd ez;FALLING da IN z ci IN p sq;p TRUCK
   26E0|RESTRICTED e ENTRY-|1;2
   26E2||ASTRONOMICAL y fo URANUS;he ci w st n t dt b;PENTAGRAM;RIGHT-HANDED INTERLACED PENTAGRAM;
     LEFT-HANDED INTERLACED PENTAGRAM;iv PENTAGRAM;p cs ON SHIELD;SHINTO SHRINE;CHURCH;CASTLE;HISTORIC SITE;
     GEAR WITHOUT HUB;GEAR w HANDLES;MAP y fo LIGHTHOUSE;mb;UMBRELLA ON GROUND;FOUNTAIN;FLAG IN HOLE;FERRY;SAILBOAT;
     sq u CORNERS;SKIER;ICE SKATE;pr w BALL;TENT;JAPANESE BANK y;HEADSTONE GRAVEYARD y;FUEL PUMP;CUP ON p sq;
     z FLAG w hr mi p STRIPE;p SAFETY SCISSORS;up BLADE SCISSORS;p SCISSORS;lo BLADE SCISSORS;z SCISSORS;z he CHECK k;
     tz LOCATION s;TAPE DRIVE;AIRPLANE;hk;ra fs;ra hn;VICTORY hn;WRITING hn;lo r PENCIL;PENCIL;up r PENCIL;z NIB
   2712||p NIB;CHECK k;he CHECK k;mp X;he mp X;BALLOT X;he BALLOT X;OUTLINED gr cs;he gr cs;op ce cs;he op ce cs;
     v cs;fx z v cs;OUTLINED v cs;MALTESE cs;sa OF DAVID;u ju at;u BALLOON-SPOKED at;he u BALLOON-SPOKED at;
     u CLUB-SPOKED at;p u pi sa;z u pi sa;SPARKLES;STRESS OUTLINED z sa;cr z sa;op ce p sa;p ce z sa;OUTLINED p sa;
     he OUTLINED p sa;pn sa;fx z sa;he at;op ce at;ei aj at;ei pi p sa;ei pi pn sa;si pi p sa;ei pi RECTILINEAR p sa;
     he ei pi RECTILINEAR p sa;ej pi p sa;hv pi at;ju at;op ce ju at;he ju at;si PETALLED p n z FLORETTE;p FLORETTE;
     z FLORETTE;ei PETALLED OUTLINED p FLORETTE;cr op ce ei pi sa;he ju pn at;SNOWFLAKE;TIGHT TRIFOLIATE SNOWFLAKE;
     he CHEVRON SNOWFLAKE;SPARKLE;he SPARKLE;BALLOON-SPOKED at;ei ju PROPELLER at;he ei ju PROPELLER at;cs k;fx z ci;
     nv sd cs k
   274F/|lo;up| r |DROP-SHADOWED z sq;fx z sq
   2753||p qe k or;z qe k or;z ex k or;p dm ms z X;he ex k y;li ve ba;md ve ba;he ve ba
   275B|he |sn ;d |tr cm qo k or;cm qo k or
   275F||he lw sn cm qo k or;he lw d cm qo k or;ew STEM PARAGRAPH s or;he ex k or;he hb ex k or;he p hb;
     ro he p hb bx;FLORAL hb;ro FLORAL hb bx
   2768|md |;FLATTENED |e pa or;r pa or
   276C|md |lf an bc or;rg an bc or
   276E/he |lf;rg| an |qo k or;bc or
   2772||li e ef af bc or;li r ef af bc or;md e cq bc or;md r cq bc or
   2776|DINGBAT |nv cr ;cr ss ;nv cr ss |di o;di t;di h;di u;di fi;di si;di se;di ei;di ni;nu te
   2794|he |WIDE-HEADED ri a;pl s;ms s;iw s;su ea a;ri a;no ea a
   279B||DRAFTING POINT ri a;he ROUND-TIPPED ri a;ta ri a;he ta ri a;eb ta ri a;he eb ta ri a;p ri a;
     THREE-D TOP-LIGHTED ri ar;THREE-D BOTTOM-LIGHTED ri ar;p ri ar;he p ew dw n ri a;he p ew uw n ri a;SQUAT p ri a;
     he CONCAVE-POINTED p ri a;RIGHT-SHADED z ri a;LEFT-SHADED z ri a;BACK-TILTED fx z ri a;FRONT-TILTED fx z ri a;
     he lo RIGHT-SHADOWED z ri a;he up RIGHT-SHADOWED z ri a;nd lo RIGHT-SHADOWED z ri a;cq LOOP;
     nd up RIGHT-SHADOWED z ri a;cr he z ri a;WHITE-FEATHERED ri a
   27B4||BLACK-FEATHERED ;he BLACK-FEATHERED |su ea a;ri a;no ea a
   27BA||TEARDROP-BARBED ri a;he TEARDROP-SHANKED ri a;WEDGE-TAILED ri a;he WEDGE-TAILED ri a;OPEN-OUTLINED ri a;
     d cq LOOP;h DIMENSIONAL an;z ti jn m z ti;PERPENDICULAR;op fe;op fz;e S-SHAPED BAG DELIMITER;
     r S-SHAPED BAG DELIMITER;OR w i ii;rv sw PRECEDING fe;fz PRECEDING sw;ve ba w hr st;ma rs da;ln iw;ma FALLING da;
     sd lc n;sd lc OR;z dm w gt i;n w i;fp OF OPENING uw;lo r cf w i;up e cf w i;e OUTER JOIN;r OUTER JOIN;
     fu OUTER JOIN;la UP tk;la do tk;e n r d jl;e n r tk;e MULTIMAP;ln r tk;ln e tk;UP tk w ci b;
     lz DIVIDED BY hr RULE;z CONCAVE-SIDED dm
   27E2|z |CONCAVE-SIDED dm w ;sq w |le TICK;ri TICK
   27E6/ma |e;r| |z sq bc;an bc;d an bc;z ef af bc;FLATTENED pa
   27F0||uw qp a;dw qp a;ak GAPPED ci a;bq GAPPED ci a;r a w cr pl
   27F5|ln |le a;ri a;e r a;le d a;ri d a;e r d a
   27FB/ln |le;ri| |a fr ba;d a fr ba
   27FF||ln ri SQUIGGLE a;BRAILLE PATTERN BLANK
   2801|BRAILLE PATTERN DOTS-|1;2;12;3;13;23;123;4;14;24;124;34;134;234;1234;5;15;25;125;35;135;235;1235;45;145;245;
     1245;345;1345;2345;12345;6;16;26;126;36;136;236;1236;46;146;246;1246;346;1346;2346;12346;56;156;256;1256;356;
     1356;2356;12356;456;1456;2456;12456;3456;13456;23456;123456;7;17;27;127;37;137;237;1237;47;147;247;1247;347;1347;
     2347;12347;57;157;257;1257;357;1357;2357;12357;457;1457;2457;12457;3457;13457;23457;123457;67;167;267;1267;367;
     1367;2367;12367;467;1467;2467;12467;3467;13467;23467;123467;567;1567;2567;12567;3567;13567;23567;123567;4567;
     14567;24567;124567;34567;134567;234567;1234567;8;18;28;128;38;138;238;1238;48;148;248;1248;348;1348;2348;12348;
     58;158;258;1258;358;1358;2358;12358;458;1458;2458;12458;3458;13458;23458;123458;68;168;268;1268;368;1368;2368;
     12368;468;1468;2468;12468;3468;13468;23468;123468;568;1568;2568;12568;3568;13568;23568;123568;4568;14568;24568;
     124568;34568;134568;234568;1234568;78;178;278;1278;378;1378;2378;12378;478;1478;2478;12478;3478;13478;23478;
     123478;578;1578;2578;12578;3578;13578;23578;123578;4578;14578;24578;124578;34578;134578;234578;1234578;678;1678;
     2678;12678;3678;13678;23678;123678;4678;14678;24678;124678;34678;134678;234678;1234678;5678;15678;25678;125678;
     35678;135678;235678;1235678;45678;145678;245678;1245678;345678;1345678;2345678;12345678
   2900|ri fl a w |ve st;d ve st
   2902||le d a w ve st;ri d a w ve st;e r d a w ve st;ri fl a fr ba;le d a fr ba;ri d a fr ba;dw a w hr st;
     uw a w hr st;uw tp a;dw tp a
   290C/|le;ri| |d df a;tp df a
   2910||ri fl tp df a;ri a w dc STEM;uw a TO ba;dw a TO ba
   2914|ri a w tc w |ve st;d ve st
   2916|ri fl a w tc|; w ve st; w d ve st
   2919/|le;ri| |ARROW-TAIL;d ARROW-TAIL;a TO p dm;a fr ba TO p dm
   2921|no |ws n su ea a;ea n su ws a;ws a w ho;ea a w ho
   2925||su ea a w ho;su ws a w ho;no ws a n no ea a;no ea a n su ea a;su ea a n su ws a;su ws a n no ws a;
     rs da cn FALLING da;FALLING da cn rs da;su ea a cn no ea a;no ea a cn su ea a;FALLING da cn no ea a;
     rs da cn su ea a;no ea a cn no ws a;no ws a cn no ea a;wa a po DIRECTLY r
   2934|a po ri THEN CURVING |uw;dw
   2936|a po dw THEN CURVING |le;ri
   2938||RIGHT-SIDE ARC bq a;LEFT-SIDE ARC ak a;tg ARC ak a;bt ARC ak a;tg ARC bq a w ms;tg ARC ak a w pl;
     lo r SEMICIRCULAR bq a;lo e SEMICIRCULAR ak a;ak cl ci a;bq cl ci a;ri a b sr le a;le a b sr ri a;sr ri a b le a;
     ri a w pl g;le a w pl g;ri a fh X;e r a fh m ci;uw fl a fr m ci;e br UP r br do hp;e br do r br UP hp;
     UP br r do br e hp;UP br e do br r hp;e br UP r br UP hp;UP br r do br r hp;e br do r br do hp;
     UP br e do br e hp;le hp w br UP TO ba;ri hp w br UP TO ba;uw hp w br r TO ba;dw hp w br r TO ba;
     le hp w br do TO ba;ri hp w br do TO ba;uw hp w br e TO ba;dw hp w br e TO ba;le hp w br UP fr ba;
     ri hp w br UP fr ba;uw hp w br r fr ba;dw hp w br r fr ba;le hp w br do fr ba;ri hp w br do fr ba;
     uw hp w br e fr ba;dw hp w br e fr ba;le hp w br UP b le hp w br do;uw hp w br e ek uw hp w br r;
     ri hp w br UP b ri hp w br do;dw hp w br e ek dw hp w br r
   2966|le hp w br |UP b ri hp w br UP;do b ri hp w br do
   2968|ri hp w br |UP b le hp w br UP;do b le hp w br do
   296A||le hp w br ;ri hp w br |UP b ln df;do g ln df
   296E||uw hp w br e ek dw hp w br r;dw hp w br e ek uw hp w br r;r d a w ru HEAD;eu s b ri a;tl oe b ri a;
     le a b tl oe;ri a b tl oe;ri a b dz eq TO;ls b le a;le a fh ls;ge b ri a;fe b ri a;le a fh fe;fz b le a;
     e FISH tc;r FISH tc;UP FISH tc;do FISH tc;tp ve ba DELIMITER;Z nf SPOT;Z nf TYPE cd
   2983/|e;r| z |cq bc;pa
   2987/Z nf |e;r| |IMAGE bc;BINDING bc
   298B||e sq bc w un;r sq bc w un;e sq bc w TICK IN tg cf;r sq bc w TICK IN bt cf;e sq bc w TICK IN bt cf;
     r sq bc w TICK IN tg cf;e an bc w i;r an bc w i;e ARC ls bc;r ARC ge bc;d e ARC ge bc;d r ARC ls bc;e p ef af bc;
     r p ef af bc;dc FENCE;ve ZIGZAG lb;MEASURED an OPENING e;r an vn w sq;MEASURED r an w i;an w S ii;ac an
   29A0|SPHERICAL an OPENING |e;UP
   29A2||tr an;re an;an w un;re an w un
   29A6|oq an OPENING |UP;do
   29A8|MEASURED an w op ARM ENDING IN a po |UP n r;UP n e;do n r;do n e;r n UP;e n UP;r n do;e n do
   29B0|re EMPTY SET|
   29B1|EMPTY SET w |ob;m ci b;r a b;e a b
   29B5|c|i w hr ba;r ve ba;r pb;r rv sw;r PERPENDICULAR;i DIVIDED BY hr ba n tg ha DIVIDED BY ve ba;
     i w SUPERIMPOSED X;r ANTICLOCKWISE-ROTATED iw s
   29BD|UP a fh ci|
   29BE|cr |z bx;bx;ls;ge
   29C2|ci w |m ci TO tf r;t hr STROKES TO tf r
   29C4|sd |rs da bi;FALLING da bi;at;m ci;sq
   29C9||t JOINED SQUARES;ti w i b;ti w un;S IN ti;ti w SERIFS AT bt;r ti b e ti;e ti ek ve ba;ve ba ek r ti;
     BOWTIE w e ha p;BOWTIE w r ha p;p BOWTIE;j w e ha p;j w r ha p;z HOURGLASS;p HOURGLASS
   29D8/|e;r| |WIGGLY FENCE;d WIGGLY FENCE
   29DC||INCOMPLETE INFINITY;TIE ov INFINITY;INFINITY NEGATED w ve ba;DOUBLE-ENDED MULTIMAP;sq w CONTOURED OUTLINE;
     INCREASES AS;SHUFFLE pd;eu s n bf pb;eu s n bf pb w tl b;IDENTICAL TO n bf pb;GLEICH STARK;THERMODYNAMIC;
     gz ti w e ha p;gz ti w r ha p;p dm w do a;p lz;z ci w do a;p ci w do a
   29EE/ERROR-BARRED |z;p| |sq;dm;ci
   29F4||RULE-DELAYED;rv sw oe;sw w ob;rv sw w hr st;BIG sw;BIG rv sw;d pl;tp pl;lf ew an bc;rg ew an bc;TINY;MINY
   2A00|N-ARY |cr i oe;cr pl oe;cr j oe;ui oe w i;ui oe w pl;sq ir oe;sq ui oe
   2A07||t lc n oe;t lc OR oe;N-ARY j oe;MODULO t SUM;SUMMATION w it;qp it oe;FINITE PART it;it w d st;
     it AVERAGE w bi;CIRCULATION FUNCTION;ak INTEGRATION
   2A12|lb INTEGRATION |w RECTANGULAR PATH AROUND POLE;w SEMICIRCULAR PATH AROUND POLE;nt INCLUDING tf POLE
   2A15||it AROUND A POINT oe;QUATERNION it oe
   2A17|it w |le a w ho;j s;ir;ui;ob;un
   2A1D||JOIN;la e ti oe
   2A1F|Z nf SCHEMA |COMPOSITION;PIPING;PROJECTION
   2A22|pl s w |m ci b;cc ae b;tl b;i g;tl g;jt t;p ti
   2A29|ms s w |cm b;i g;FALLING dt;rs dt
   2A2D|pl s IN |e ha ci;r ha ci
   2A2F||VECTOR OR cs pd;mp s w i b;mp s w un;SEMIDIRECT pd w bt cl;SMASH pd;mp s IN e ha ci;mp s IN r ha ci;
     cr mp s w cc ae;mp s IN d ci;cr iw s;pl s IN ti;ms s IN ti;mp s IN ti;INTERIOR pd;RIGHTHAND INTERIOR pd;
     Z nf RELATIONAL COMPOSITION;AMALGAMATION OR COPRODUCT;ir w i;ui w ms s;ui w ob;ir w ob;ir w lc n;ui w lc OR;
     ui b ir;ir b ui;ui b ba b ir;ir b ba b ui;ui ek n JOINED w ui;ir ek n JOINED w ir;cl ui w SERIFS;cl ir w SERIFS;
     d sq ir;d sq ui;cl ui w SERIFS n SMASH pd;lc n w i b;lc OR w i b
   2A53||d lc ;t INTERSECTING lc |n;OR
   2A57|SLOPING la |OR;n
   2A59|lc OR OVERLAPPING lc n|
   2A5A/lc |n;OR| w |mi STEM;hr df
   2A5E|lc n w |d ob;un;d un
   2A61||m VEE w un;lc OR w d ob;lc OR w d un;Z nf DOMAIN ANTIRESTRICTION;Z nf RANGE ANTIRESTRICTION;eu s w i g;
     IDENTICAL w i b
   2A68|tp hr ba w |d ve st;tp ve st
   2A6A|tl oe w |i b;rs dt
   2A6C||SIMILAR ms SIMILAR;CONGRUENT w i b;eu w at;dz eq TO w cc ae;kc eq OR eq TO;eu s b pl s;pl s b eu s;
     eu s b tl oe;d cd eq;t CONSECUTIVE eu SIGNS;h CONSECUTIVE eu SIGNS;eu s w t dt b n t dt g;ev w u dt b
   2A79/|ls;ge| w |ci ii;qe k b
   2A7D/|ls;ge| OR bf eq TO|; w i ii; w i b
   2A83||ls OR bf eq TO w i b r;ge OR bf eq TO w i b e
   2A85/|ls;ge| |OR APPROXIMATE;n SINGLE-LINE nt eq TO;n nt APPROXIMATE
   2A8B||ls b jp eq b ge;ge b jp eq b ls;ls b SIMILAR OR eq;ge b SIMILAR OR eq;ls b SIMILAR b ge;ge b SIMILAR b ls;
     ls b ge b jp eq;ge b ls b jp eq;ls b bf eq b ge b bf eq;ge b bf eq b ls b bf eq
   2A95|bf eq TO OR |ls;ge;ls w i ii;ge w i ii
   2A99|jp |eq TO OR ;bf eq TO OR |ls;ge
   2A9D|SIMILAR |OR ls;OR ge;b ls b eu s;b ge b eu s
   2AA1|d NESTED |ls;ge;ls w un
   2AA4|ge |OVERLAPPING ls;ek ls
   2AA6/|ls;ge| cl BY cv|; b bf eq
   2AAA/|SMALLER;LARGER| THAN|; OR eq TO
   2AAE|eu s w BUMPY b|
   2AAF/|PRECEDES;SUCCEEDS| b |SINGLE-LINE eu s;SINGLE-LINE nt eq TO;eu s;nt eq TO;dz eq TO;nt dz eq TO
   2ABB|d |PRECEDES;SUCCEEDS
   2ABD/|fe;fz| w |i;pl s g;mp s g
   2AC3/|fe;fz| OF |OR eq TO w i b;b eu s;b tl oe;b dz eq TO;b nt eq TO
   2ACD|sq |e op BOX oe;r op BOX oe
   2ACF|cl f|e;z;e OR eq TO;z OR eq TO
   2AD3||fe b fz;fz b fe;fe b fe;fz b fz;fz ek fe;fz ek n JOINED BY df w fe;fp OF OPENING dw;PITCHFORK w TEE tg;
     TRANSVERSAL ir;FORKING;NONFORKING;sr e tk;sr do tk;sr UP tk;PERPENDICULAR w S;ve ba tp r jl;d ve ba e jl;
     ve ba d e jl;d ve ba d e jl;ln df fr e MEMBER OF d ve;sr do tk w ob;sr UP tk w un;sr UP tk b sr do tk;d do tk;
     d UP tk;d st nt s;re d st nt s;DOES nt DIVIDE w re NEGATION bi;ve lb w ci b;ve lb w ci g;do tk w ci g;pb w hr st;
     pb w tl oe;tp ve ba BINARY RELATION;tp ve ba w hr st;tp cd oe;tp NESTED ls;tp NESTED ge;jp bf ls OR eq TO;
     jp bf ge OR eq TO;tp sw BINARY RELATION;la tp ve ba oe;d sw oe;z ve ba;N-ARY z ve ba
   2B00||no ;su |ea z a;ws z a
   2B04||e r z a;le p a;uw p a;dw p a
   2B08||no ;su |ea p a;ws p a
   2B0C||e r p a;UP do p a
   2B0E||ri a w TIP ;le a w TIP |dw;uw
   2B12|sq w |tg ha p;bt ha p;up r da ha p;lo e da ha p
   2B16|dm w |e ha p;r ha p;tg ha p;bt ha p
   2B1A|dc sq|
   2B1B/|p;z| |la sq;vr m sq;PENTAGON
   2B21||z HEXAGON;p HEXAGON;hr p HEXAGON;p la ci
   2B25/|p;z| md |dm;lz
   2B29|p m dm|
   2B2A/|p;z| |m lz;hr ELLIPSE;ve ELLIPSE
   2B30||e a w m ci;h le ax;e a w cr pl;ln le SQUIGGLE a
   2B34|le fl |a w ve st;a w d ve st;a fr ba;tp df a
   2B38|le a w |dc STEM;tc w ve st;tc w d ve st
   2B3B|le fl a w tc|; w ve st; w d ve st
   2B3E||le a fh X;wa a po DIRECTLY e;eu s b le a;rv tl oe b le a;le a b rv dz eq TO;ri a fh ge;ri a fh fz;le qp a;
     ri qp a;rv tl oe b ri a;ri a b rv dz eq TO;tl oe b le a;le a b dz eq TO;le a b rv tl oe;ri a b rv tl oe;
     dw ta ZIGZAG a;sr bf no a;sr BACKSLANTED su a;z md sa
   2B51/|p;z| |m sa;rg PENTAGON
   2B55|he |la ci;OVAL w OVAL ii;ci w ci ii;ci;cr ez
   2B5A||bf no a w HOOKED HEAD;BACKSLANTED su a w HOOKED tc;bf no a w hr tc;BACKSLANTED su a w hr tc;
     bn a po dw THEN no ea;sr bn a po dw THEN no ea;le ta a;uw ta a;ri ta a;dw ta a;e r ta a;UP do ta a;no ws ta a;
     no ea ta a;su ea ta a;su ws ta a;le ta eb a;uw ta eb a;ri ta eb a;dw ta eb a;bq ta op ci a;ak ta op ci a;
     le ta a TO ba;uw ta a TO ba;ri ta a TO ba;dw ta a TO ba
   2B76||no ws ta a TO ba;no ea ta a TO ba;su ea ta a TO ba;su ws ta a TO ba;le ta a w d hr st;uw ta a w d hr st;
     ri ta a w d hr st;dw ta a w d hr st;hr TAB KEY;ve TAB KEY;le ta a ov ri ta a;uw ta a le OF dw ta a;
     ri ta a ov le ta a;dw ta a le OF uw ta a;le ta PAIRED ax;uw ta PAIRED ax;ri ta PAIRED ax;dw ta PAIRED ax;
     le p cr z a;uw p cr z a;ri p cr z a;dw p cr z a
   2B8C|ak ta |r U-SHAPED a;bt U-SHAPED a;e U-SHAPED a;tg U-SHAPED a
   2B90||RETURN ;NEWLINE |e;r
   2B94||u cf ax CIRCLING ak;ri p a
   2B97|y fo TYPE A ELECTRONICS|
   2B98|THREE-D |TOP-LIGHTED le el ar;RIGHT-LIGHTED uw el ar;TOP-LIGHTED ri el ar;LEFT-LIGHTED dw el ar
   2B9C|p |le el ar;uw el ar;ri el ar;dw el ar
   2BA0||dw ta a w ln TIP ;uw ta a w ln TIP |le;ri
   2BA4/|le;ri| ta a w ln TIP |uw;dw
   2BA8|p ew |dw n ;uw n |le a;ri a
   2BAC/p ew |le;ri| n |uw a;dw a
   2BB0|RIBBON a |do e;do r;UP e;UP r;e UP;r UP;e do;r do
   2BB8||uw z a fr ba w hr ba;UP ar IN A RECTANGLE BOX
   2BBA|OVERLAPPING |z SQUARES;z n p SQUARES;p SQUARES
   2BBD||BALLOT BOX w li X;cr X;cr bo X;p sq gt;p dm gt;tr p PENTAGON;hr p OCTAGON;p OCTAGON
   2BC5|p md |uo ti gt;gz ti gt;lf ti gt;rg ti gt
   2BC9||NEPTUNE f t;tg ha p ci;bt ha p ci;li u pi p CUSP;ro li u pi p CUSP;z u pi CUSP;ro z u pi CUSP;
     sq POSITION jg;UNCERTAINTY s;GROUP k
   2BD3|PLUTO f |t;h;u;fi
   2BD7||TRANSPLUTO;PROSERPINA;ASTRAEA;HYGIEA;PHOLUS;NESSUS;z mn SELENA;p dm ON cs;TRUE li mn ARTA;CUPIDO;HADES;
     ZEUS;KRONOS;APOLLON;ADMETOS;VULCANUS;POSEIDON;e ha p sa;r ha p sa;sa w e ha p;sa w r ha p;
     le fl a w ti ARROWHEADS;uw fl a w ti ARROWHEADS;ri fl a w ti ARROWHEADS;dw fl a w ti ARROWHEADS;ERIS f o;
     ERIS f t;SEDNA
   2BF3|RUSSIAN ASTROLOGICAL y |VIGINTILE;NOVILE;QUINTILE;BINOVILE;SENTAGON;TREDECILE
   2BF9||eu s w INFINITY g;UNITED y;SEPARATED y;DOUBLED y;PASSED y;re r an;HELLSCHREIBER PAUSE y"

end FloScript.Text.CharName
