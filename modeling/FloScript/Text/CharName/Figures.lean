/-! Names of characters from 1D000 to 1F0FF: signs of music and mathematics, game pieces. -/
namespace FloScript.Text.CharName

/-- Rows of a table of abbreviated names. -/
def figures : String :=
  "1D000|en mu y |ps;DASEIA;pe;OXEIA EKFONITIKON;OXEIA DIPLI;VAREIA EKFONITIKON;VAREIA DIPLI;KATHISTI;SYRMATIKI;
     PARAKLITIKI;YPOKRISIS;YPOKRISIS DIPLI;KREMASTI;APESO EKFONITIKON;EXO EKFONITIKON;TELEIA;KENTIMATA;APOSTROFOS;
     APOSTROFOS DIPLI;SYNEVMA;THITA;OLIGON ao;GORGON ao;PSILON;CHAMILON;VATHY;ISON ao;KENTIMA ao;KENTIMATA ao;
     SAXIMATA;PARICHON;STAVROS APODEXIA;OXEIAI ao;VAREIAI ao;APODERMA ao;APOTHEMA;KLASMA;REVMA;PIASMA ao;TINAGMA;
     ANATRICHISMA;SEISMA;SYNAGMA ao;SYNAGMA META STAVROU;OYRANISMA ao;THEMA;LEMOI;DYO;TRIA;TESSERA;KRATIMATA;
     APESO EXO NEO;FTHORA ao;IMIFTHORA;TROMIKON ao;KATAVA TROMIKON;PELASTON;PSIFISTON;KONTEVMA;CHOREVMA ao;RAPISMA;
     PARAKALESMA ao;PARAKLITIKI ao;ICHADIN;NANA;PETASMA;KONTEVMA ALLO;TROMIKON ALLO;STRAGGISMATA;GRONTHISMATA;
     ISON NEO;OLIGON NEO;OXEIA NEO;PETASTI;KOUFISMA;PETASTOKOUFISMA;KRATIMOKOUFISMA;PELASTON NEO;KENTIMATA NEO ANO;
     KENTIMA NEO ANO;YPSILI;APOSTROFOS NEO;APOSTROFOI SYNDESMOS NEO;YPORROI;KRATIMOYPORROON;ELAFRON;CHAMILI;
     MIKRON ISON;VAREIA NEO;PIASMA NEO;PSIFISTON NEO;OMALON;ANTIKENOMA;LYGISMA;PARAKLITIKI NEO;PARAKALESMA NEO;
     ETERON PARAKALESMA;KYLISMA;ANTIKENOKYLISMA;TROMIKON NEO;EKSTREPTON;SYNAGMA NEO;SYRMA;CHOREVMA NEO;EPEGERMA;
     SEISMA NEO;XIRON KLASMA;TROMIKOPSIFISTON;PSIFISTOLYGISMA;TROMIKOLYGISMA;TROMIKOPARAKALESMA;PSIFISTOPARAKALESMA;
     TROMIKOSYNAGMA;PSIFISTOSYNAGMA;GORGOSYNTHETON;ARGOSYNTHETON;ETERON ARGOSYNTHETON;OYRANISMA NEO;THEMATISMOS ESO;
     THEMATISMOS EXO;THEMA APLOUN;THES KAI APOTHES;KATAVASMA;ENDOFONON;YFEN KATO;YFEN ANO;STAVROS;KLASMA ANO;DIPLI ao;
     KRATIMA ao;KRATIMA ALLO;KRATIMA NEO;APODERMA NEO;APLI;DIPLI;TRIPLI;TETRAPLI;KORONIS
   1D08A|en mu y LEIMMA |ENOS CHRONOU;DYO CHRONON;TRION CHRONON;TESSARON CHRONON;IMISEOS CHRONOU
   1D08F|en mu y GORGON |NEO ANO;pm ARISTERA;pm DEXIA
   1D092|en mu y DIGORGON|; pm ARISTERA KATO; pm ARISTERA ANO; pm DEXIA
   1D096|en mu y |TRIGORGON;ARGON;IMIDIARGON;DIARGON
   1D09A|en mu y AGOGI |POLI ARGI;ARGOTERI;ARGI;METRIA;MESI;GORGI;GORGOTERI;POLI GORGI
   1D0A2|en mu y MARTYRIA |PROTOS ICHOS;ALLI PROTOS ICHOS;DEYTEROS ICHOS;ALLI DEYTEROS ICHOS;TRITOS ICHOS;TRIFONIAS;
     TETARTOS ICHOS;TETARTOS LEGETOS ICHOS;LEGETOS ICHOS;PLAGIOS ICHOS
   1D0AC|en mu y |ISAKIA TELOUS ICHIMATOS;APOSTROFOI TELOUS ICHIMATOS;FANEROSIS TETRAFONIAS;FANEROSIS MONOFONIAS;
     FANEROSIS DIFONIAS;MARTYRIA VARYS ICHOS;MARTYRIA PROTOVARYS ICHOS;MARTYRIA PLAGIOS TETARTOS ICHOS;
     GORTHMIKON N APLOUN;GORTHMIKON N DIPLOUN;ENARXIS KAI FTHORA VOU;IMIFONON;IMIFTHORON
   1D0B9|en mu y FTHORA |ao DEYTEROU ICHOU;jo PA;jo NANA;NAOS ICHOS;jo DI;SKLIRON DIATONON DI;jo KE;jo ZO;
     jo NI KATO;jo NI ANO;MALAKON CHROMA DIFONIAS;MALAKON CHROMA MONOFONIAS
   1D0C5|en mu y |FHTORA SKLIRON CHROMA VASIS;FTHORA SKLIRON CHROMA SYNAFI;FTHORA NENANO;CHROA ZYGOS;CHROA KLITON;
     CHROA SPATHI;FTHORA I YFESIS TETARTIMORION;FTHORA ENARMONIOS ANTIFONIA;YFESIS TRITIMORION;DIESIS TRITIMORION;
     DIESIS TETARTIMORION
   1D0D0|en mu y |DIESIS ;YFESIS |APLI DYO DODEKATA;MONOGRAMMOS TESSERA DODEKATA;DIGRAMMOS EX DODEKATA;
     TRIGRAMMOS OKTO DODEKATA
   1D0D8|en mu y GENIKI |DIESIS;YFESIS
   1D0DA|en mu y DIASTOLI |APLI MIKRI;APLI MEGALI;DIPLI;THESEOS
   1D0DE|en mu y SIMANSIS |THESEOS;ARSEOS|; DISIMOU; TRISIMOU; TETRASIMOU
   1D0E6|en mu y |DIGRAMMA GG;DIFTOGGOS OU;STIGMA
   1D0E9|en mu y ARKTIKO |PA;VOU;GA;DI;KE;ZO;NI
   1D0F0/en mu y |KENTIMATA;KENTIMA| NEO |MESO;KATO
   1D0F4|en mu y |KLASMA KATO;GORGON NEO KATO
   1D100|mu y |sn BARLINE;d BARLINE;x BARLINE;rv x BARLINE;eb BARLINE;sr BARLINE;e REPEAT s;r REPEAT s;REPEAT dt;
     DAL SEGNO;DA CAPO;SEGNO;CODA
   1D10D|mu y REPEATED FIGURE-|1;2;3
   1D110|mu y |FERMATA;FERMATA g;BREATH k;CAESURA;BRACE;bc;ONE-LINE STAFF;TWO-LINE STAFF;THREE-LINE STAFF;
     FOUR-LINE STAFF;FIVE-LINE STAFF;SIX-LINE STAFF;SIX-STRING FRETBOARD;FOUR-STRING FRETBOARD;G CLEF;
     G CLEF OTTAVA ALTA;G CLEF OTTAVA BASSA;C CLEF;F CLEF;F CLEF OTTAVA ALTA;F CLEF OTTAVA BASSA;DRUM CLEF-1;
     DRUM CLEF-2
   1D129|mu y |MULTIPLE MEASURE REST;d SHARP;d FLAT
   1D12C|mu y |FLAT ;NATURAL ;SHARP |UP;do
   1D132|mu y |qu to SHARP;qu to FLAT;COMMON TIME;CUT TIME
   1D136|mu y |OTTAVA ;QUINDICESIMA |ALTA;BASSA
   1D13A|mu y |MULTI REST;WHOLE REST;ha REST;qu REST;eh REST;SIXTEENTH REST;THIRTY-SECOND REST;SIXTY-FOURTH REST;
     o hu TWENTY-EIGHTH REST;X nh;pl nh;ci X nh
   1D146|mu y |sq nh ;ti nh UP ;ti nh e ;ti nh r ;ti nh do ;ti nh UP r ;mn nh ;TRIANGLE-ROUND nh do |z;p
   1D156|mu y |pa nh;VOID nh;nh p;NULL nh;CLUSTER nh z;CLUSTER nh p;be;WHOLE nc;ha nc;qu nc;eh nc;SIXTEENTH nc;
     THIRTY-SECOND nc;SIXTY-FOURTH nc;o hu TWENTY-EIGHTH nc;co STEM;co SPRECHGESANG STEM
   1D167|mu y |co TREMOLO-;FINGERED TREMOLO-|1;2;3
   1D16D|mu y co AUGMENTATION i|
   1D16E|mu y co FLAG-|1;2;3;4;5
   1D173/mu y |BEGIN;END| |BEAM;TIE;SLUR;PHRASE
   1D17B|mu y co |ae;STACCATO;TENUTO;STACCATISSIMO;MARCATO;MARCATO-STACCATO;ACCENT-STACCATO;LOURE
   1D183|mu y ARPEGGIATO |UP;do
   1D185|mu y co |DOIT;RIP;FLIP;SMEAR;BEND;d TONGUE;tp TONGUE
   1D18C|mu y |RINFORZANDO;SUBITO;Z;PIANO;MEZZO;FORTE;CRESCENDO;DECRESCENDO;GRACE nc bi;GRACE nc NO bi;TR;TURN;
     iv TURN;TURN bi;TURN UP
   1D19B|mu y or STROKE-|1;2;3;4;5;6;7;8;9;10;11
   1D1A6|mu y |HAUPTSTIMME;NEBENSTIMME;END OF STIMME;DEGREE bi;co do BOW;co UP BOW;co HARMONIC;co SNAP PIZZICATO;
     PEDAL k;PEDAL UP k;ha PEDAL k;GLISSANDO UP;GLISSANDO do;w FINGERNAILS;DAMP;DAMP ALL;MAXIMA;LONGA;BREVIS;
     SEMIBREVIS z;SEMIBREVIS p;MINIMA;MINIMA p;SEMIMINIMA z;SEMIMINIMA p;FUSA z;FUSA p;LONGA PERFECTA REST;
     LONGA jx REST;BREVIS REST;SEMIBREVIS REST;MINIMA REST;SEMIMINIMA REST
   1D1C7|mu y TEMPUS PERFECTUM CUM PROLATIONE |PERFECTA;jx;PERFECTA DIMINUTION-1
   1D1CA|mu y TEMPUS IMPERFECTUM CUM PROLATIONE |PERFECTA;jx;jx DIMINUTION-1;jx DIMINUTION-2;jx DIMINUTION-3
   1D1CF|mu y |CROIX;GREGORIAN C CLEF;GREGORIAN F CLEF;sq B;VIRGA;PODATUS;CLIVIS;SCANDICUS;CLIMACUS;TORCULUS;
     PORRECTUS;PORRECTUS FLEXUS;SCANDICUS FLEXUS;TORCULUS RESUPINUS;PES SUBPUNCTIS
   1D1DE|mu y KIEVAN |C CLEF;END OF PIECE;x nc;RECITATIVE k;WHOLE nc;ha nc;qu nc STEM do;qu nc STEM UP;
     eh nc STEM do;eh nc STEM UP;FLAT s
   1D1E9|mu y |SORI;KORON
   1D200|gr VOCAL nf SYMBOL-|1;2;3;4;5;6;7;8;9;10;11;12;13;14;15;16;17;18;19;20;21;22;23;24;50;51;52;53;54
   1D21D|gr INSTRUMENTAL nf SYMBOL-|1;2;4;5;7;8;11;12;13;14;17;18;19;23;24;25;26;27;29;30;32;36;37;38;39;40;42;43;
     45;47;48;49;50;51;52;53;54
   1D242|co gr mu |TRISEME;TETRASEME;PENTASEME
   1D245|gr mu LEIMMA|
   1D2E0|MAYAN nl |ze;o;t;h;u;fi;si;se;ei;ni;te;ELEVEN;ej;THIRTEEN;FOURTEEN;fq;hv;js;ix;NINETEEN
   1D300|MONOGRAM fo EARTH|
   1D301|DIGRAM fo |HEAVENLY EARTH;HUMAN EARTH;EARTHLY HEAVEN;EARTHLY HUMAN;EARTH
   1D306|TETRAGRAM fo |ce;fu ci;MIRED;BARRIER;KEEPING m;CONTRARIETY;ASCENT;OPPOSITION;BRANCHING OUT;
     DEFECTIVENESS OR DISTORTION;DIVERGENCE;YOUTHFULNESS;INCREASE;PENETRATION;REACH;CONTACT;HOLDING BACK;WAITING;
     FOLLOWING;ADVANCE;RELEASE;RESISTANCE;EASE;JOY;CONTENTION;ENDEAVOUR;DUTIES;CHANGE;DECISIVENESS;bo RESOLUTION;
     PACKING;LEGION;CLOSENESS;KINSHIP;GATHERING;STRENGTH;PURITY;FULLNESS;RESIDENCE;LAW OR MODEL;RESPONSE;
     GOING TO MEET;ENCOUNTERS;STOVE;GREATNESS;ENLARGEMENT;PATTERN;RITUAL;FLIGHT;VASTNESS OR WASTING;CONSTANCY;MEASURE;
     ETERNITY;UNITY;DIMINISHMENT;cl mt;GUARDEDNESS;GATHERING IN;MASSING;ACCUMULATION;EMBELLISHMENT;DOUBT;WATCH;
     SINKING;INNER;DEPARTURE;DARKENING;DIMMING;EXHAUSTION;SEVERANCE;STOPPAGE;HARDNESS;COMPLETION;CLOSURE;FAILURE;
     AGGRAVATION;COMPLIANCE;ON tf VERGE;DIFFICULTIES;LABOURING;FOSTERING
   1D360|COUNTING ROD |UNIT di ;TENS di |o;t;h;u;fi;si;se;ei;ni
   1D372|ie TALLY k |o;t;h;u;fi
   1D377|TALLY k |o;fi
   1D400|ma |bo c ;bo m ;ia c |A;B;C;D;E;F;G;H;I;J;K;L;M;N;O;P;Q;R;S;T;U;V;W;X;Y;Z
   1D44E|ma ia m |A;B;C;D;E;F;G
   1D456|ma ia m |I;J;K;L;M;N;O;P;Q;R;S;T;U;V;W;X;Y;Z
   1D468|ma bo ia |c ;m |A;B;C;D;E;F;G;H;I;J;K;L;M;N;O;P;Q;R;S;T;U;V;W;X;Y;Z
   1D49C|ma sc c A|
   1D49E|ma sc c |C;D
   1D4A2|ma sc c G|
   1D4A5|ma sc c |J;K
   1D4A9|ma sc c |N;O;P;Q
   1D4AE|ma sc c |S;T;U;V;W;X;Y;Z
   1D4B6|ma sc m |A;B;C;D
   1D4BB|ma sc m F|
   1D4BD|ma sc m |H;I;J;K;L;M;N
   1D4C5|ma sc m |P;Q;R;S;T;U;V;W;X;Y;Z
   1D4D0|ma bo sc |c ;m |A;B;C;D;E;F;G;H;I;J;K;L;M;N;O;P;Q;R;S;T;U;V;W;X;Y;Z
   1D504|ma FRAKTUR c |A;B
   1D507|ma FRAKTUR c |D;E;F;G
   1D50D|ma FRAKTUR c |J;K;L;M;N;O;P;Q
   1D516|ma FRAKTUR c |S;T;U;V;W;X;Y
   1D51E|ma FRAKTUR m |A;B;C;D;E;F;G;H;I;J;K;L;M;N;O;P;Q;R;S;T;U;V;W;X;Y;Z
   1D538|ma du c |A;B
   1D53B|ma du c |D;E;F;G
   1D540|ma du c |I;J;K;L;M
   1D546|ma du c O|
   1D54A|ma du c |S;T;U;V;W;X;Y
   1D552|ma |du m ;bo FRAKTUR c ;bo FRAKTUR m ;ss c ;ss m ;ss bo c ;ss bo m ;ss ia c ;ss ia m ;ss bo ia c ;
     ss bo ia m ;MONOSPACE c ;MONOSPACE m |A;B;C;D;E;F;G;H;I;J;K;L;M;N;O;P;Q;R;S;T;U;V;W;X;Y;Z
   1D6A4|ma ia m dp |I;J
   1D6A8|ma |bo ;ia ;bo ia ;ss bo ;ss bo ia |c ap;c BETA;c GAMMA;c DELTA;c ep;c ZETA;c ETA;c THETA;c io;c KAPPA;
     c LAMDA;c MU;c NU;c XI;c oo;c PI;c RHO;c THETA y;c SIGMA;c TAU;c us;c PHI;c CHI;c PSI;c om;NABLA;m ap;m BETA;
     m GAMMA;m DELTA;m ep;m ZETA;m ETA;m THETA;m io;m KAPPA;m LAMDA;m MU;m NU;m XI;m oo;m PI;m RHO;m x SIGMA;m SIGMA;
     m TAU;m us;m PHI;m CHI;m PSI;m om;PARTIAL DIFFERENTIAL;ep y;THETA y;KAPPA y;PHI y;RHO y;PI y
   1D7CA|ma bo |c DIGAMMA;m DIGAMMA
   1D7CE|ma |bo di ;du di ;ss di ;ss bo di ;MONOSPACE di |ze;o;t;h;u;fi;si;se;ei;ni
   1D800|sg |hj id;HAND-CIRCLE id;HAND-CUP id;HAND-OVAL id;HAND-HINGE id;HAND-ANGLE id;hj id bn;HAND-CIRCLE id bn;
     hj tu UNDER id bn;hj id ra KNUCKLE;hj id CUPPED;hj id hd;hj id hd lw;HAND-CIRCLE id hc;hj id mi;HAND-CIRCLE id mi
   1D810|sg hj id |mi bn;mi ra KNUCKLES;mi hd;UP mi hd;hd mi UP;mi cw;mi cw id bn;mi cw mi bn;mi cw CUPPED;mi cw hd;
     mi er
   1D81B|sg |HAND-CIRCLE id mi er;hj mi bn ov id;hj id bn ov mi;hj id mi tu;HAND-CIRCLE id mi tu
   1D820|sg hj id |mi sx tu bn;mi bn tu sx;mi tu bn;mi hd bz tu sb;UP mi hd tu sb;UP mi hd tu cw;hd mi UP tu sb;
     mi UP bz tu fw
   1D828|sg hj id mi tu |CUPPED;cr;HOOKED;hd
   1D82C|sg hj tu bw id mi sx|
   1D82D|sg hj id mi cw tu sb|; cw; bn
   1D830|sg hj |mi tu HOOKED id UP;id tu HOOKED mi UP;id mi cw hd tu sb;id mi er tu sb;id mi cw tu fw;
     id mi cw CUPPED tu fw;mi tu CUPPED id UP;id tu CUPPED mi UP;mi tu cr id UP;mi tu cr id hd;id tu ANGLED OUT mi UP;
     id tu ANGLED IN mi UP;id tu cr mi UP
   1D83D|sg hj id mi tu |cw hd;ANGLED OUT;ANGLED
   1D840|sg hj mi tu ANGLED |OUT id UP;OUT id er;id UP
   1D843|sg hj id tu HOOKED mi hd|
   1D844|sg HAND-FLAT u fn|; bn; hd; cw; cw SPLIT
   1D849|sg |HAND-CLAW u fn cw;hj u fn cw bn;HAND-HINGE u fn cw
   1D84C|sg HAND-FLAT |fi fn bz;HEEL fi fn bz;fi fn bz u bn;HEEL fi fn bz u bn;fi fn bz bn;HEEL fi fn bz bn;
     fi fn bz tu fw
   1D853|sg HAND-|CUP fi fn bz;CUP fi fn bz op;HINGE fi fn bz op;OVAL fi fn bz
   1D857|sg HAND-FLAT fi fn bz hd|; tu sb; NO tu
   1D85A|sg HAND-FLAT|; bw PALM FACINGS; HEEL; tu sb; HEEL tu sb; tu bn; tu fw
   1D861|sg HAND-FLAT SPLIT |id tu sb;ce;ce tu sb;ce tu sb bn;lt
   1D866|sg HAND-|CLAW;CLAW tu sb;CLAW NO tu;CLAW tu fw;HOOK CURLICUE;HOOK;CUP op;CUP;CUP op tu sb;CUP tu sb;
     CUP op NO tu;CUP NO tu;CUP op tu fw;CUP tu fw;CURLICUE op;CURLICUE;CIRCLE;OVAL;OVAL tu sb;OVAL NO tu;OVAL tu fw
   1D87B|sg HAND-HINGE| op; op tu fw;; m; op tu sb; tu sb; op NO tu; NO tu; tu sb TOUCHING id; tu bw mi rn
   1D885|sg |HAND-ANGLE;hj id mi rn;HAND-CIRCLE id mi rn;HAND-HINGE id mi rn;HAND-ANGLE id mi rn;HAND-HINGE lt;
     hj id mi rn bn;hj id mi rn cw;HAND-HINGE id mi rn cw
   1D88E|sg hj lt do|; RIPPLE sx; RIPPLE ew; OTHERS cr
   1D892|sg hj |lt UP;tu UNDER lt UP
   1D894|sg HAND-|CIRCLE lt UP;OVAL lt UP;ANGLE lt UP
   1D897|sg hj lt |ra KNUCKLE;bn;TOUCHES tu
   1D89A/sg |hj;HAND-HINGE| lt |tu;id tu
   1D89E|sg HAND-ANGLE lt id tu id tu| OUT;
   1D8A0|sg |hj lt id;HAND-CIRCLE lt id;HAND-HINGE lt id;HAND-ANGLE lt id;hj id mi lt;HAND-CIRCLE id mi lt;
     HAND-HINGE id mi lt;HAND-HINGE rn;HAND-ANGLE id mi lt;hj id mi cs lt;HAND-CIRCLE id mi cs lt;hj rn do;
     HAND-HINGE rn do id tu ho mi;HAND-ANGLE rn do mi tu id cs
   1D8AE|sg hj rn |UP;ra KNUCKLE;lt
   1D8B1|sg HAND-|CIRCLE rn lt;OVAL rn lt;ANGLE rn lt
   1D8B4|sg hj rn |mi;mi cw;mi ra KNUCKLES;id;tu
   1D8B9|sg |HAND-HOOK rn tu;hj id rn lt;HAND-CIRCLE id rn lt;HAND-CURLICUE id rn lt ON
   1D8BD|sg HAND-HOOK id rn lt |OUT;IN;UNDER
   1D8C0|sg HAND-|CUP id rn lt;HINGE id rn lt;ANGLE id rn lt OUT;ANGLE id rn lt
   1D8C4|sg |hj mi do;HAND-HINGE mi;hj mi UP;HAND-CIRCLE mi UP;hj mi ra KNUCKLE;hj mi UP tu sb;HAND-HOOK mi tu
   1D8CB|sg hj mi |tu lt;lt;rn lt
   1D8CE|sg HAND-|CIRCLE mi rn lt;CURLICUE mi rn lt ON;CUP mi rn lt;HINGE mi rn lt;ANGLE mi rn lt OUT;
     ANGLE mi rn lt IN;ANGLE mi rn lt;CIRCLE mi rn lt bn
   1D8D6|sg HAND-CLAW mi rn lt cw|; sb
   1D8D8|sg HAND-HOOK mi rn lt cw| OUT; IN;
   1D8DB|sg |HAND-HINGE id hd;hj id tu sb;HAND-HINGE id tu sb
   1D8DE|sg hj id tu |sb tu da;sb tu cw;sb tu bn;sb id bn;sb BOTH bn;sb id hc;fw id sx;fw id bn;ho;CURLICUE;cv tu ii
   1D8E9|sg |HAND-CLAW id tu cv tu ii;hj id tu cv tu UNDER;hj id tu ci
   1D8EC|sg HAND-CUP id tu|; op
   1D8EE|sg HAND-HINGE id tu| op; la;; m
   1D8F2|sg HAND-ANGLE id tu| OUT; IN;
   1D8F5|sg hj tu|; HEEL; sb da; sb cw; sb bn; fw; bw id mi; bw mi rn; bw rn lt; UNDER t fn; ov t fn; UNDER h fn;
      UNDER u fn; ov u ra KNUCKLES
   1D903|sg hj|; HEEL
   1D905|sg |TOUCH ;GRASP ;STRIKE ;BRUSH ;RUB |sn;MULTIPLE;bw
   1D914|sg SURFACE |SYMBOLS;bw
   1D916|sg |SQUEEZE ;FLICK |la sn;m sn;la MULTIPLE;m MULTIPLE;SEQUENTIAL
   1D920|sg SQUEEZE FLICK ai|
   1D921|sg MOVEMENT-HINGE |UP do la;UP do m;UP SEQUENTIAL;do SEQUENTIAL;UP do ai la;UP do ai m;sb TO sb SCISSORS
   1D928|sg m|w FINGER CONTACT;v FINGER CONTACT
   1D92A|sg mw sn sx |m;md;la;LARGEST
   1D92E|sg mw |sn WRIST FLEX;d sx;d WRIST FLEX;d ai;d ai WRIST FLEX;cs;tp sx MOVEMENT;tp WRIST FLEX;tp ai;
     tp ai WRIST FLEX;BEND m;BEND md;BEND la;cf m;cf md;cf la;cf ROTATION
   1D93F|sg mw |CHECK ;BOX ;ZIGZAG ;PEAKS |m;md;la
   1D94B|sg TRAVEL-WALLPLANE ROTATION-|WALLPLANE ;FLOORPLANE |sn;d;ai
   1D951|sg TRAVEL-WALLPLANE |SHAKING;ARM SPIRAL sn;ARM SPIRAL d;ARM SPIRAL tp
   1D955|sg MOVEMENT-DIAGONAL |AWAY ;TOWARDS ;bw AWAY ;bw TOWARDS |m;md;la;LARGEST
   1D965|sg mv sn sx |m;md;la;LARGEST
   1D969|sg mv |sn WRIST FLEX;d sx;d WRIST FLEX;d ai;d ai WRIST FLEX;cs;tp sx MOVEMENT;tp WRIST FLEX;tp ai MOVEMENT;
     tp ai WRIST FLEX;BEND;cf m;cf md;cf la;CHECK
   1D978|sg mv |BOX ;ZIGZAG ;PEAKS |m;md;la
   1D981|sg TRAVEL-FLOORPLANE ROTATION-|FLOORPLANE ;WALLPLANE |sn;d;ai
   1D987|sg TRAVEL-FLOORPLANE SHAKING|
   1D988|sg mw cv |qu ;HALF-CIRCLE |m;md;la;LARGEST
   1D990|sg mw cv THREE-QUARTER ci m|;d
   1D992|sg mw HUMP |m;md;la
   1D995|sg mw LOOP |m;md;la;m d
   1D999|sg mw wa cv |d ;tp |m;md;la
   1D99F|sg mw |cv THEN sx;ew cs m;ew cs md
   1D9A2|sg ROTATION-WALLPLANE |sn;d;aa
   1D9A5|sg mw |SHAKING;cv ht FRONT WALL;HUMP ht FRONT WALL;LOOP ht FRONT WALL;wa ht FRONT WALL
   1D9AA|sg ROTATION-WALLPLANE |sn ht FRONT WALL;d ht FRONT WALL;ai ht FRONT WALL
   1D9AD|sg mw |cv ht CHEST;HUMP ht CHEST;LOOP ht CHEST;wa ht CHEST
   1D9B1|sg ROTATION-WALLPLANE |sn ht CHEST;d ht CHEST;ai ht CHEST
   1D9B4|sg mw wa da PATH |m;md;la
   1D9B7|sg mv cv ht CEILING |m;la
   1D9B9/sg mv HUMP ht CEILING |m;la| |d;tp
   1D9BD/sg mv LOOP ht CEILING |m;la| |sn;d
   1D9C1|sg mv wa ht CEILING |m;la
   1D9C3|sg ROTATION-FLOORPLANE |sn ht CEILING;d ht CEILING;ai ht CEILING
   1D9C6|sg mv cv ht FLOOR |m;la
   1D9C8|sg mv HUMP ht FLOOR |m d;la d;tp m tp;tp la tp
   1D9CC/sg mv LOOP ht FLOOR |m;la| |sn;d
   1D9D0|sg mv wa ht FLOOR |m;la
   1D9D2|sg ROTATION-FLOORPLANE |sn ht FLOOR;d ht FLOOR;ai ht FLOOR
   1D9D5|sg mv |cv m;cv md;cv la;cv LARGEST;cv COMBINED;HUMP m;LOOP m;wa SNAKE;wa m;wa la
   1D9DF|sg ROTATION-FLOORPLANE |sn;d;ai
   1D9E2|sg mv SHAKING pb|
   1D9E3/sg mw ARM ci |m;md| |sn;d
   1D9E7|sg mv ARM ci ht WALL |m sn;md sn;la sn;m d;md d;la d
   1D9ED|sg m|w WRIST ci FRONT ;v WRIST ci ht WALL ;w FINGER bp ;v FINGER bp ht WALL |sn;d
   1D9F5|sg DYNAMIC |ar m;ar la;FAST;SLOW;TENSE;RELAXED;SIMULTANEOUS;SIMULTANEOUS ai;EVERY OTHER TIME;GRADUAL
   1D9FF|sg HEAD|; RIM; mw sx; mw TILT; mv sx; mw cv; mv cv; MOVEMENT ci
   1DA07|sg fa DIRECTION POSITION NOSE |fw TILTING;UP OR do;UP OR do TILTING
   1DA0A|sg EYEBROWS sx |UP;nr;do
   1DA0D|sg DREAMY EYEBROWS |nr do;do nr;UP nr;nr UP
   1DA11|sg FOREHEAD |nr;CONTACT;WRINKLED
   1DA14|sg EYE|S op;S SQUEEZED;S cl; BLINK sn; BLINK MULTIPLE;S ha op;S WIDE op;S ha cl;S WIDENING MOVEMENT; WINK
   1DA1E|sg EYELASHES |UP;do;FLUTTERING
   1DA21|sg EYEGAZE-|WALLPLANE sx;FLOORPLANE sx|; d; ai
   1DA27|sg EYEGAZE-|WALLPLANE ew;FLOORPLANE ew;WALLPLANE CIRCLING
   1DA2A|sg CHEEKS |PUFFED;nr;SUCKED
   1DA2D|sg TENSE CHEEKS |hi;mi;lw
   1DA30|sg EARS|
   1DA31|sg NOSE |nr;CONTACT;WRINKLES;WIGGLES
   1DA35|sg AIR |BLOWING OUT;SUCKING IN;BLOW m ROTATIONS;SUCK m ROTATIONS
   1DA39|sg BREATH |INHALE;EXHALE
   1DA3B|sg mt cl |nr;fw;CONTACT
   1DA3E|sg mt |SMILE;FROWN|; WRINKLED; op
   1DA44|sg mt op |ci;fw;WRINKLED
   1DA47|sg mt op |OVAL;RECTANGLE|; WRINKLED; YAWN
   1DA4D|sg mt KISS|; fw; WRINKLED
   1DA50|sg mt TENSE|; fw; SUCKED
   1DA53|sg LIP|S PRESSED TOGETHER; lo ov up; up ov lo
   1DA56|sg mt |CORNERS;WRINKLES sn;WRINKLES d
   1DA59|sg TONGUE |STICKING OUT FAR;LICKING LIPS;TIP bw LIPS;TIP TOUCHING ii mt;ii mt RELAXED;MOVES AGAINST CHEEK;
     ce STICKING OUT;ce ii mt
   1DA61|sg TEETH|; ON TONGUE; ON LIPS|; MOVEMENT
   1DA67|sg |TEETH BITE LIPS;mw JAW;mv JAW;NECK;HAIR;EXCITEMENT;SHOULDER HIP SPINE;SHOULDER HIP POSITIONS;
     wl SHOULDER HIP MOVE;jb SHOULDER HIP MOVE;SHOULDER TILTING fr WAIST;TORSO-WALLPLANE sx STRETCH;
     TORSO-WALLPLANE ew BEND;TORSO-FLOORPLANE TWISTING;up BODY TILTING fr HIP JOINTS;LIMB COMBINATION
   1DA77|sg LIMB LENGTH-|1;2;3;4;5;6;7
   1DA7E|sg FINGER|
   1DA7F|sg LOCATION|-WALLPLANE ab;-FLOORPLANE ab; HEIGHT; WIDTH; DEPTH; HEAD NECK; TORSO; LIMBS DIGITS
   1DA87|sg |cm;fu so;ee;cd;pa
   1DA9B|sg FILL MODIFIER-|2;3;4;5;6
   1DAA1|sg ROTATION MODIFIER-|2;3;4;5;6;7;8;9;10;11;12;13;14;15;16
   1DF00|v |m l FENG dg w TRILL;m l re sc G;l m c tr G;m l re K;l m c L w BELT;m l LEZH w rt ho;m l tr Y w BELT;
     m l re ENG;m l tr R w ln LEG n rt ho;m l T w ho n rt ho;l rt CLICK w rt ho;m l ESH w d ba;m l ESH w d ba n cp;
     m l tr T w cp;l iv gl so w cp;l hz C w cp;l m c tr K
   1DF11|v m l |L w FISHHOOK;DEZH dg w pt ho;L w BELT n pt ho;ENG w pt ho;tr R w pt ho;R w FISHHOOK n pt ho;
     TESH dg w pt ho;EZH w pt ho;DEZH dg w rt ho;I w st n rt ho;O w rt ho;TESH dg w rt ho;C w rt ho;S w cp
   1E000|co jw l |AZU;BUKY;VEDE;GLAGOLI;DOBRO;YESTU;ZHIVETE
   1E008|co jw l |ZEMLJA;IZHE;in IZHE;I;DJERVI;KAKO;LJUDIJE;MYSLITE;NASHI;ONU;POKOJI;RITSI;SLOVO;TVRIDO;UKU;FRITU;
     HERU
   1E01B|co jw l |SHTA;TSI;CHRIVI;sh;YERU;YERI;YATI
   1E023|co jw l |YU;m YUS
   1E026|co jw l |YO;IOTATED m YUS;BIG YUS;IOTATED BIG YUS;FITA
   1E100|NYIAKENG PUACHUE HMONG l |MA;TSA;NTA;TA;HA;NA;XA;NKA;CA;LA;SA;ZA;NCA;NTSA;KA;DA;ny;NRA;VA;NTXA;TXA;FA;RA;
     QA;YA;NQA;PA;XYA;NPA;DLA;NPLA;hh;MLA;PLA;GA;RRA;A;AA;I;U;O;OO;E;EE;W
   1E130|NYIAKENG PUACHUE HMONG TONE-|B;M;J;V;S;G;D
   1E137|NYIAKENG PUACHUE HMONG s| fo pr; fo THING; fo LOCATION; fo ANIMAL; fo INVERTEBRATE; XW XW;y LENGTHENER
   1E140|NYIAKENG PUACHUE HMONG di |ze;o;t;h;u;fi;si;se;ei;ni
   1E14E|NYIAKENG PUACHUE HMONG |LOGOGRAM NYAJ;cr CA
   1E290|TOTO l |PA;BA;TA;DA;KA;GA;MA;NA;ng;SA;ch;YA;WA;JA;HA;RA;LA;I;BREATHY I;IU;BREATHY IU;U;E;BREATHY E;EO;
     BREATHY EO;O;AE;BREATHY AE;A
   1E2AE|TOTO s rs to|
   1E2C0|WANCHO l |AA;A;BA;CA;DA;GA;YA;ph;LA;NA;PA;TA;tb;FA;SA;sh;JA;ZA;WA;VA;KA;O;AU;RA;MA;kh;HA;E;I;ng;U;LLHA;TSA;
     TRA;ONG;AANG;ANG;ING;ON;EN;AAN;ny;UEN;YIH
   1E2EC|WANCHO to |TUP;KOI|;NI
   1E2F0|WANCHO di |ze;o;t;h;u;fi;si;se;ei;ni
   1E2FF|WANCHO NGUN s|
   1E7E0|et sy HHY|A;U;I;AA;EE;E;O
   1E7E8|et sy |GURAGE HHWA;HHWI;HHWEE;HHWE
   1E7ED|et sy GURAGE MW|I;EE
   1E7F0|et sy GURAGE |QWI;QWEE;QWE;BWI;BWEE;KWI;KWEE;KWE;GWI;GWEE;GWE;FWI;FWEE;PWI;PWEE
   1E800|MENDE KIKAKUI sy M|001 KI;002 KA;003 KU;065 KEE;095 KE;076 KOO;048 KO;179 KUA;004 WI;005 WA;006 WU;126 WEE;
     118 WE;114 WOO;045 WO;194 WUI;143 WEI;061 WVI;049 WVA;139 WVE;007 MIN;008 MAN;009 MUN;059 MEN;094 MON;154 MUAN;
     189 MUEN;010 BI;011 BA;012 BU;150 BEE;097 BE;103 BOO;138 BO;013 I;014 A;015 U;163 EE;100 E;165 OO;147 O;137 EI;
     131 IN;135 IN;195 AN;178 EN;019 SI;020 SA;021 SU;162 SEE;116 SE;136 SOO;079 SO;196 SIA;025 LI;026 LA;027 LU;
     084 LEE;073 LE;054 LOO;153 LO;110 ln LE;016 DI;017 DA;018 DU;089 DEE;180 DOO;181 DO;022 TI;023 TA;024 TU;091 TEE;
     055 TE;104 TOO;069 TO;028 JI;029 JA;030 JU;157 JEE;113 JE;160 JOO;063 JO;175 ln JO;031 YI;032 YA;033 YU;109 YEE;
     080 YE;141 YOO;121 YO;034 FI;035 FA;036 FU;078 FEE;075 FE;133 FOO;088 FO;197 FUA;101 FAN;037 NIN;038 NAN;039 nn;
     117 NEN;169 NON;176 HI;041 HA;186 HU;040 HEE;096 HE;042 HOO;140 HO;083 HEEI;128 HOOU;053 HIN;130 HAN;087 HUN;
     052 HEN;193 HON;046 HUAN;090 NGGI;043 NGGA;082 NGGU;115 NGGEE;146 NGGE;156 NGGOO;120 NGGO;159 NGGAA;127 NGGUA;
     086 ln NGGE;106 ln NGGOO;183 ln NGGO;155 GI;111 GA;168 GU;190 GEE;166 GUEI;167 GUAN;184 NGEN;057 NGON;177 NGUAN;
     068 PI;099 PA;050 PU;081 PEE;051 PE;102 POO;066 PO;145 MBI;062 MBA;122 MBU;047 MBEE;188 MBEE;072 MBE;172 MBOO;
     174 MBO;187 MBUU;161 ln MBE;105 ln MBOO;142 ln MBO;132 KPI;092 KPA;074 KPU;044 KPEE;108 KPE;112 KPOO;158 KPO;
     124 GBI;056 GBA;148 GBU;093 GBEE;107 GBE;071 GBOO;070 GBO;171 RA;123 NDI;129 NDA;125 NDU;191 NDEE;119 NDE;
     067 NDOO;064 NDO;152 NJA;192 NJU;149 NJEE;134 NJOO;182 VI;185 VA;151 VU;173 VEE;085 VE;144 VOO;077 VO;164 NYIN;
     058 NYAN;170 NYUN;098 NYEN;060 NYON
   1E8C7|MENDE KIKAKUI di |o;t;h;u;fi;si;se;ei;ni
   1E8D0|MENDE KIKAKUI co nu |TEENS;TENS;HUNDREDS;jk;te jk;hu jk;MILLIONS
   1E900|ADLAM |c l ;m l |ALIF;DAALI;LAAM;MIIM;BA;SINNYIIYHE;PE;BHE;RA;E;FA;I;O;dh;YHE;WAW;nn;KAF;YA;U;JIIM;CHI;HA;
     QAAF;GA;ny;TU;NHA;VA;kh;GBE;ZAL;KPO;sh
   1E944|ADLAM |ALIF LENGTHENER;vo LENGTHENER;GEMINATION k;hm;ct mo;GEMINATE ct mo;nk;NASALIZATION k
   1E950|ADLAM di |ze;o;t;h;u;fi;si;se;ei;ni
   1E95E|ADLAM in |ex k;qe k
   1EC71|INDIC SIYAQ nu |o;t;h;u;fi;si;se;ei;ni;te;tw;ty;ft;ff;aw;sv;ey;ne;o hu;t hu;h hu;u hu;fi hu;si hu;se hu;
     ei hu;ni hu;o th;t th;h th;u th;fi th;si th;se th;ei th;ni th;te th;tw th;ty th;ft th;ff th;aw th;sv th;ey th;
     ne th;LAKH;LAKHAN
   1ECA0|INDIC SIYAQ |LAKH k;nu KAROR;nu KARORAN
   1ECA3|INDIC SIYAQ nu PREFIXED |o;t;h;u;fi;si;se;ei;ni
   1ECAC|INDIC SIYAQ |PLACEHOLDER;fc o qu;fc o ha;fc h qr;RUPEE k;nu aa o;nu aa t;nu aa te th;aa LAKH k
   1ED01|OTTOMAN SIYAQ nu |o;t;h;u;fi;si;se;ei;ni;te;tw;ty;ft;ff;aw;sv;ey;ne;o hu;t hu;h hu;u hu;fi hu;si hu;se hu;
     ei hu;ni hu;o th;t th;h th;u th;fi th;si th;se th;ei th;ni th;te th;tw th;ty th;ft th;ff th;aw th;sv th;ey th;
     ne th
   1ED2E|OTTOMAN SIYAQ MARRATAN|
   1ED2F|OTTOMAN SIYAQ aa nu |t;h;u;fi;si;se;ei;ni;te;u hu;si hu;t th;te th
   1ED3C|OTTOMAN SIYAQ fc o |ha;SIXTH
   1EE00|q ma |al;BEH;je;DAL
   1EE05|q ma |WAW;ZAIN;hh;TAH;ye;KAF;lm;me;nb;sf;AIN;FEH;SAD;QAF;REH;sz;TEH;THEH;ka;THAL;DAD;ZAH;gi;dp BEH;dp nb;
     dp FEH;dp QAF
   1EE21|q ma in |BEH;je
   1EE24|q ma in HEH|
   1EE27|q ma in hh|
   1EE29|q ma in |ye;KAF;lm;me;nb;sf;AIN;FEH;SAD;QAF
   1EE34|q ma in |sz;TEH;THEH;ka
   1EE39|q ma in DAD|
   1EE3B|q ma in gi|
   1EE42|q ma tx je|
   1EE47|q ma tx hh|
   1EE49|q ma tx ye|
   1EE4B|q ma tx lm|
   1EE4D|q ma tx |nb;sf;AIN
   1EE51|q ma tx |SAD;QAF
   1EE54|q ma tx sz|
   1EE57|q ma tx ka|
   1EE59|q ma tx DAD|
   1EE5B|q ma tx gi|
   1EE5D|q ma tx dp nb|
   1EE5F|q ma tx dp QAF|
   1EE61|q ma hz |BEH;je
   1EE64|q ma hz HEH|
   1EE67|q ma hz |hh;TAH;ye;KAF
   1EE6C|q ma hz |me;nb;sf;AIN;FEH;SAD;QAF
   1EE74|q ma hz |sz;TEH;THEH;ka
   1EE79|q ma hz |DAD;ZAH;gi;dp BEH
   1EE7E|q ma hz dp FEH|
   1EE80|q ma LOOPED |al;BEH;je;DAL;HEH;WAW;ZAIN;hh;TAH;ye
   1EE8B|q ma LOOPED |lm;me;nb;sf;AIN;FEH;SAD;QAF;REH;sz;TEH;THEH;ka;THAL;DAD;ZAH;gi
   1EEA1|q ma du |BEH;je;DAL
   1EEA5|q ma du |WAW;ZAIN;hh;TAH;ye
   1EEAB|q ma du |lm;me;nb;sf;AIN;FEH;SAD;QAF;REH;sz;TEH;THEH;ka;THAL;DAD;ZAH;gi
   1EEF0|q ma oe |me w hh w TATWEEL;hh w DAL
   1F000|MAHJONG TILE |ea WIND;su WIND;ws WIND;no WIND;RED DRAGON;GREEN DRAGON;z DRAGON;o OF gw;t OF gw;h OF gw;
     u OF gw;fi OF gw;si OF gw;se OF gw;ei OF gw;ni OF gw;o OF gs;t OF gs;h OF gs;u OF gs;fi OF gs;si OF gs;se OF gs;
     ei OF gs;ni OF gs;o OF bp;t OF bp;h OF bp;u OF bp;fi OF bp;si OF bp;se OF bp;ei OF bp;ni OF bp;PLUM;ORCHID;
     BAMBOO;CHRYSANTHEMUM;SPRING;SUMMER;AUTUMN;WINTER;JOKER;BACK
   1F030|DOMINO TILE hr BACK|
   1F031|DOMINO TILE HORIZONTAL-0|0-0;1-0;2-0;3-0;4-0;5-0;6-0|0;1;2;3;4;5;6
   1F062|DOMINO TILE ve BACK|
   1F063|DOMINO TILE VERTICAL-0|0-0;1-0;2-0;3-0;4-0;5-0;6-0|0;1;2;3;4;5;6
   1F0A0|PLAYING CARD |BACK;ACE OF by;t OF by;h OF by;u OF by;fi OF by;si OF by;se OF by;ei OF by;ni OF by;te OF by;
     JACK OF by;kn OF by;QUEEN OF by;KING OF by
   1F0B1|PLAYING CARD |ACE OF hs;t OF hs;h OF hs;u OF hs;fi OF hs;si OF hs;se OF hs;ei OF hs;ni OF hs;te OF hs;
     JACK OF hs;kn OF hs;QUEEN OF hs;KING OF hs;RED JOKER
   1F0C1|PLAYING CARD |ACE OF dq;t OF dq;h OF dq;u OF dq;fi OF dq;si OF dq;se OF dq;ei OF dq;ni OF dq;te OF dq;
     JACK OF dq;kn OF dq;QUEEN OF dq;KING OF dq;p JOKER
   1F0D1|PLAYING CARD |ACE OF CLUBS;t OF CLUBS;h OF CLUBS;u OF CLUBS;fi OF CLUBS;si OF CLUBS;se OF CLUBS;
     ei OF CLUBS;ni OF CLUBS;te OF CLUBS;JACK OF CLUBS;kn OF CLUBS;QUEEN OF CLUBS;KING OF CLUBS;z JOKER;FOOL
   1F0E1|PLAYING CARD TRUMP-|1;2;3;4;5;6;7;8;9;10;11;12;13;14;15;16;17;18;19;20;21"

end FloScript.Text.CharName
