/-! Names of characters from 2C00 to FFFF: East Asian scripts, later letters and compatibility forms. -/
namespace FloScript.Text.CharName

/-- Rows of a table of abbreviated names. -/
def east : String :=
  "2C00|jw |c l ;m l |AZU;BUKY;VEDE;GLAGOLI;DOBRO;YESTU;ZHIVETE;DZELO;ZEMLJA;IZHE;in IZHE;I;DJERVI;KAKO;LJUDIJE;
     MYSLITE;NASHI;ONU;POKOJI;RITSI;SLOVO;TVRIDO;UKU;FRITU;HERU;OTU;PE;SHTA;TSI;CHRIVI;sh;YERU;YERI;YATI;SPIDERY HA;
     YU;m YUS;m YUS w tc;YO;IOTATED m YUS;BIG YUS;IOTATED BIG YUS;FITA;IZHITSA;SHTAPIC;TROKUTASTI A;LATINATE MYSLITE;
     CAUDATE CHRIVI
   2C60|v |c l L w d ba;m l L w d ba;c l L w mi tl;c l P w st;c l R w tc;m l A w st;m l T w da st
   2C67/v |c;m| l |H w dl;K w dl;Z w dl
   2C6D|v c l |ap;M w ho;tr A;tr ap
   2C71|v |m l V w r ho;c l W w ho;m l W w ho;m l V w cp;c l ha H
   2C76|v m l |ha H;TAILLESS PHI;E w NOTCH;tr R w tc;O w lw rn ii
   2C7B||v l m c tr E;v jt m l J;mo l c V;v c l S w SWASH tc;v c l Z w SWASH tc
   2C80/cx |c;m| l |ALFA;VIDA;GAMMA;DALDA;EIE;SOU;ZATA;HATE;THETHE;IAUDA;KAPA;LAULA;MI;NI;KSI;O;PI;RO;SIMA;TAU;UA;
     FI;KHI;PSI;OOU;DIALECT-P al;ol cx AIN;CRYPTOGRAMMIC EIE;DIALECT-P KAPA;DIALECT-P NI;CRYPTOGRAMMIC NI;ol cx OOU;
     SAMPI;er SHEI;ol cx SHEI;ol cx ESH;AKHMIMIC KHEI;DIALECT-P HORI;ol cx HORI;ol cx HA;L-SHAPED HA
   2CD2/cx |c;m| l ol cx |HEI;HAT;GANGIA;DJA;SHIMA
   2CDC/cx |c;m| l ol NUBIAN |SHIMA;NGI;NYI;WAU
   2CE4|cx y |KAI;MI RO;PI RO;STAUROS;TAU RO;KHI RO;SHIMA SIMA
   2CEB/cx |c;m| l CRYPTOGRAMMIC |SHEI;GANGIA
   2CEF|cx |co NI b;co SPIRITUS ASPER;co SPIRITUS LENIS;c l BOHAIRIC KHEI;m l BOHAIRIC KHEI
   2CF9|cx ol NUBIAN |fu so;DIRECT qe k;INDIRECT qe k;VERSE DIVIDER
   2CFD|cx |fc o ha;fu so;MORPHOLOGICAL DIVIDER
   2D00|gg m l |AN;BAN;GAN;DON;EN;VIN;ZEN;TAN;IN;KAN;LAS;MAN;NAR;ON;PAR;ZHAR;RAE;SAN;TAR;UN;PHAR;KHAR;GHAN;QAR;sk;
     CHIN;CAN;JIL;CIL;CHAR;XAN;JHAN;HAE;HE;HIE;WE;HAR;HOE
   2D27|gg m l YN|
   2D2D|gg m l AEN|
   2D30|TIFINAGH l |YA;YAB;YABH;YAG;YAGHH;BERBER ACADEMY YAJ;YAJ;YAD;YADH;YADD;YADDH;YEY;YAF;YAK;TUAREG YAK;YAKHH;
     YAH;BERBER ACADEMY YAH;TUAREG YAH;YAHH;YAA;YAKH;TUAREG YAKH;YAQ;TUAREG YAQ;YI;YAZH;AHAGGAR YAZH;TUAREG YAZH;YAL;
     YAM;YAN;TUAREG YAGN;TUAREG YANG;YAP;YU;YAR;YARR;YAGH;TUAREG YAGH;AYER YAGH;YAS;YASS;YASH;YAT;YATH;YACH;YATT;YAV;
     YAW;YAY;YAZ;TAWELLEMET YAZ;YAZZ;YE;YO
   2D6F|TIFINAGH |mo l LABIALIZATION k;sp k
   2D7F|TIFINAGH ct JOINER|
   2D80|et sy |LOA;MOA;ROA;SOA;SHOA;BOA;TOA;COA;NOA;NYOA;gl OA;ZOA;DOA;DDOA;JOA;THOA;CHOA;PHOA;POA;GGWA;GGWI;GGWEE;
     GGWE
   2DA0|et sy SS|A;U;I;AA;EE;E;O
   2DA8|et sy CC|A;U;I;AA;EE;E;O
   2DB0|et sy ZZ|A;U;I;AA;EE;E;O
   2DB8|et sy CCH|A;U;I;AA;EE;E;O
   2DC0|et sy QY|A;U;I;AA;EE;E;O
   2DC8|et sy KY|A;U;I;AA;EE;E;O
   2DD0|et sy XY|A;U;I;AA;EE;E;O
   2DD8|et sy GY|A;U;I;AA;EE;E;O
   2DE0|co cy l |BE;VE;GHE;DE;ZHE;ZE;KA;EL;EM;EN;O;PE;ER;ES;TE;HA;TSE;CHE;sh;SHCHA;FITA;ES-TE;A;IE;DJERV;
     MONOGRAPH UK;YAT;YU;if A;lt YUS;BIG YUS;if BIG YUS
   2E00|r an |SUBSTITUTION MARKER;dc SUBSTITUTION MARKER
   2E02/|e;r| |SUBSTITUTION bc;dc SUBSTITUTION bc
   2E06||ra INTERPOLATION MARKER;ra dc INTERPOLATION MARKER;dc TRANSPOSITION MARKER;e TRANSPOSITION bc;
     r TRANSPOSITION bc;ra sq;e ra OMISSION bc;r ra OMISSION bc;EDITORIAL CORONIS;PARAGRAPHOS;FORKED PARAGRAPHOS;
     re FORKED PARAGRAPHOS;HYPODIASTOLE;dc OBELOS;dw ANCORA;uw ANCORA;dc rg an;d oq hy;iv INTERROBANG;PALM BRANCH;
     hy w de;tl w rn b;e lw PARAPHRASE bc;r lw PARAPHRASE bc;tl w i b;tl w i g;e ve ba w QUILL;r ve ba w QUILL
   2E22||tg ;bt |e ha bc;r ha bc
   2E26/|e;r| |jh U bc;d pa
   2E2A||t dt ov o i pu;o i ov t dt pu;sd u i pu;fi i k;re qe k;ve tl;rn POINT;WORD sp mi i;tr cm;ra i;ra cm;tr ee;
     DAGGER w e GUARD;DAGGER w r GUARD;tr DAGGER;tg ha sj s;TWO-EM df;THREE-EM df;STENOGRAPHIC fu so;ve si dt;
     WIGGLY ve lb;CAPITULUM;d hy;re cm;d LOW-REVERSED-9 qo k;df w e UPTURN;d SUSPENSION k
   2E45|iv lw KAVYKA|; w KAVYKA b
   2E47|lw KAVYKA|; w i
   2E49||d STACKED cm;dc sw;tp DAGGER;MEDIEVAL cm;PARAGRAPHUS k;PUNCTUS ELEVATUS k;CORNISH VERSE DIVIDER;
     cs PATTY w r CROSSBAR;cs PATTY w e CROSSBAR;TIRONIAN s c ET
   2E53|MEDIEVAL |ex k;qe k
   2E55/|e;r| sq bc w |st;d st
   2E59||tg ha ;bt ha |e pa;r pa
   2E5D|oq hy|
   2E80|CJK rd |REPEAT;CLIFF;SECOND o;SECOND t;SECOND h;pr;BOX;TABLE;KNIFE o;KNIFE t;DIVINATION;SEAL;m o;m t;LAME o;
     LAME t;LAME h;LAME u;SNAKE;THREAD;SNOUT o;SNOUT t;hb o;hb t;hn;RAP
   2E9B|CJK rd |CHOKE;SUN;mn;DEATH;MOTHER;CIVILIAN;wt o;wt t;FIRE;PAW o;PAW t;SIMPLIFIED ha TREE TRUNK;COW;DOG;JADE;
     BOLT OF CLOTH;EYE;SPIRIT o;SPIRIT t;BAMBOO;SILK;cz SILK;NET o;NET t;NET h;NET u;MESH;SHEEP;RAM;EWE;ol;BRUSH o;
     BRUSH t;MEAT;MORTAR;GRASS o;GRASS t;GRASS h;TIGER;CLOTHES;ws o;ws t;cz SEE;SIMPLIFIED HORN;HORN;cz SPEECH;cz af;
     FOOT;cz CART;SIMPLIFIED WALK;WALK o;WALK t;CITY;cz GOLD;ln o;ln t;cz ln;cz GATE;MOUND o;MOUND t;RAIN;BLUE;
     cz TANNED LEATHER;cz LEAF;cz WIND;cz FLY;EAT o;EAT t;EAT h;cz EAT;HEAD;cz HORSE;BONE;GHOST;cz FISH;cz BIRD;
     cz SALT;SIMPLIFIED WHEAT;SIMPLIFIED YELLOW;cz FROG
   2EEB/CJK rd |J-SIMPLIFIED;cz| |EVEN;TOOTH;DRAGON
   2EF1|CJK rd |TURTLE;J-SIMPLIFIED TURTLE;cz TURTLE
   2F00|KANGXI rd |o;lb;i;bi;SECOND;ho;t;LID;MAN;LEGS;ENTER;ei;do BOX;COVER;ICE;TABLE;op BOX;KNIFE;POWER;WRAP;SPOON;
     r op BOX;HIDING ENCLOSURE;te;DIVINATION;SEAL;CLIFF;PRIVATE;AGAIN;mt;ENCLOSURE;EARTH;SCHOLAR;GO;GO SLOWLY;EVENING;
     BIG;WOMAN;CHILD;ROOF;INCH;m;LAME;CORPSE;SPROUT;mb;RIVER;WORK;ONESELF;TURBAN;DRY;sr THREAD;dc CLIFF;ln STRIDE;
     t HANDS;SHOOT;BOW;SNOUT;BRISTLE;STEP;hb;HALBERD;DOOR;hn;BRANCH;RAP;sc;DIPPER;AXE;sq;nt;SUN;SAY;mn;TREE;LACK;so;
     DEATH;WEAPON;DO nt;COMPARE;FUR;CLAN;STEAM;wt;FIRE;CLAW;FATHER;d X;ha TREE TRUNK;SLICE;FANG;COW;DOG;PROFOUND;JADE;
     MELON;TILE;SWEET;LIFE;USE;FIELD;BOLT OF CLOTH;SICKNESS;dc TENT;z;SKIN;dk;EYE;SPEAR;a;STONE;SPIRIT;TRACK;GRAIN;
     CAVE;STAND;BAMBOO;RICE;SILK;JAR;NET;SHEEP;FEATHER;ol;n;PLOW;EAR;BRUSH;MEAT;MINISTER;SELF;ARRIVE;MORTAR;TONGUE;
     OPPOSE;BOAT;STOPPING;COLOR;GRASS;TIGER;INSECT;BLOOD;WALK ENCLOSURE;CLOTHES;ws;SEE;HORN;SPEECH;VALLEY;BEAN;PIG;
     BADGER;af;RED;RUN;FOOT;BODY;CART;BITTER;MORNING;WALK;CITY;WINE;DISTINGUISH;VILLAGE;GOLD;ln;GATE;MOUND;SLAVE;
     sr tx BIRD;RAIN;BLUE;WRONG;fa;LEATHER;TANNED LEATHER;LEEK;bu;LEAF;WIND;FLY;EAT;HEAD;FRAGRANT;HORSE;BONE;TALL;
     HAIR;FIGHT;SACRIFICIAL WINE;CAULDRON;GHOST;FISH;BIRD;SALT;DEER;WHEAT;HEMP;YELLOW;MILLET;p;EMBROIDERY;FROG;TRIPOD;
     DRUM;RAT;NOSE;EVEN;TOOTH;DRAGON;TURTLE;FLUTE
   2FF0|ie DESCRIPTION gv |e TO r;b TO g;e TO mi n r;b TO mi n g;fu SURROUND
   2FF5|ie DESCRIPTION gv SURROUND fr |b;g;e;up e;up r;lo e
   2FFB|ie DESCRIPTION gv OVERLAID|
   3000||ie ab;ie cm;ie fu so;DITTO k;JAPANESE INDUSTRIAL STANDARD y;ie ic k;ie CLOSING k;ie nu ze
   3008/|e;r| |an bc;d an bc;cf bc;z cf bc;p LENTICULAR bc
   3012||POSTAL k;GETA k
   3014/|e;r| |ef af bc;z LENTICULAR bc;z ef af bc;z sq bc
   301C||wa df;re d PRIME qo k;d PRIME qo k;lw d PRIME qo k;POSTAL k fa
   3021|HANGZHOU nl |o;t;h;u;fi;si;se;ei;ni
   302A|ie |LEVEL to k;rs to k;DEPARTING to k;ENTERING to k
   302E||hl sn i to k;hl d i to k;WAVY df
   3031|ve KANA REPEAT |k;w VOICED bu k;k up ha;w VOICED bu k up ha;k lo ha
   3036||cr POSTAL k;ie TELEGRAPH lb FEED sp y
   3038|HANGZHOU nl t|e;w;y
   303B||ve ie ic k;MASU k;PART ALTERNATION k;ie vb jg;ie ha FILL ab
   3041|HIRAGANA l |m A;A;m I;I;m U;U;m E;E;m O;O;KA;GA;KI;GI;KU;GU;KE;GE;KO;GO;SA;ZA;SI;ZI;SU;ZU;SE;ZE;SO;ZO;TA;DA;
     TI;DI;m TU;TU;DU;TE;DE;TO;DO;NA;NI;NU;NE;NO;HA;BA;PA;HI;BI;PI;HU;BU;PU;HE;BE;PE;HO;BO;PO;MA;MI;MU;ME;MO;m YA;YA;
     m YU;YU;m YO;YO;RA;RI;RU;RE;RO;m WA;WA;WI;WE;WO;N;VU;m KA;m KE
   3099||co kk ;kk |VOICED bu k;SEMI-VOICED bu k
   309D|HIRAGANA |ic k;VOICED ic k;dg YORI
   30A0|kk d hy|
   30A1|kt l |m A;A;m I;I;m U;U;m E;E;m O;O;KA;GA;KI;GI;KU;GU;KE;GE;KO;GO;SA;ZA;SI;ZI;SU;ZU;SE;ZE;SO;ZO;TA;DA;TI;DI;
     m TU;TU;DU;TE;DE;TO;DO;NA;NI;NU;NE;NO;HA;BA;PA;HI;BI;PI;HU;BU;PU;HE;BE;PE;HO;BO;PO;MA;MI;MU;ME;MO;m YA;YA;m YU;
     YU;m YO;YO;RA;RI;RU;RE;RO;m WA;WA;WI;WE;WO;N;VU;m KA;m KE;VA;VI;VE;VO
   30FB|k|t mi i;k PROLONGED bu k;t ic k;t VOICED ic k;t dg KOTO
   3105|BOPOMOFO l |B;P;M;F;D;T;N;L;G;K;H;J;Q;X;ZH;CH;SH;R;Z;C;S;A;O;E;EH;AI;EI;AU;OU;AN;EN;ANG;ENG;ER;I;U;IU;V;NG;
     GN;IH;O w i b;NN
   3131|hl l |ki;SSANGKIYEOK;KIYEOK-SIOS;NIEUN;NIEUN-CIEUC;NIEUN-HIEUH;fj;SSANGTIKEUT;RIEUL
   313A|hl l RIEUL-|KIYEOK;MIEUM;PIEUP;SIOS;THIEUTH;PHIEUPH;HIEUH
   3141|hl l |MIEUM;PIEUP;jz;PIEUP-SIOS;SIOS;ji;IEUNG;CIEUC;SSANGCIEUC;eo;ke;gf;pp;HIEUH;A;AE;YA;YAE;EO;E;YEO;YE;O;
     WA;WAE;OE;YO;U;WEO;WE;WI;YU;EU;YI;I
   3164|hl |FILLER;l SSANGNIEUN
   3166|hl l NIEUN-|TIKEUT;SIOS;PANSIOS
   3169|hl l RIEUL-|KIYEOK-SIOS;TIKEUT;PIEUP-SIOS;PANSIOS;YEORINHIEUH
   316E|hl l MIEUM-|PIEUP;SIOS;PANSIOS
   3171|hl l KAPYEOUNMIEUM|
   3172|hl l PIEUP-|KIYEOK;TIKEUT;SIOS-KIYEOK;SIOS-TIKEUT;CIEUC;THIEUTH
   3178|hl l KAPYEOUN|PIEUP;SSANGPIEUP
   317A|hl l SIOS-|KIYEOK;NIEUN;TIKEUT;PIEUP;CIEUC
   317F|hl l |PANSIOS;SSANGIEUNG;YESIEUNG;YESIEUNG-SIOS;YESIEUNG-PANSIOS;KAPYEOUNPHIEUPH;SSANGHIEUH;YEORINHIEUH;
     YO-YA;YO-YAE;YO-I;YU-YEO;YU-YE;YU-I;ARAEA;ARAEAE
   3190|ie ANNOTATION |LINKING k;rv k;o k;t k;h k;u k;tg k;mi k;bt k;FIRST k;SECOND k;THIRD k;FOURTH k;HEAVEN k;
     EARTH k;MAN k
   31A0|BOPOMOFO l |BU;ZI;JI;GU;EE;ENN;OO;ONN;IR;ANN;INN;UNN;IM;NGG;AINN;AUNN;AM;OM;ONG;INNN
   31B4|BOPOMOFO |x l P;x l T;x l K;x l H;l GH;l LH;l ZY;x l G;l GW;l KW;l OE;l AH
   31C0|CJK st |T;WG;XG;BXG;SW;HZZ;HZG;HP;HZWG;SZWG;HZT;HZZP;HPWG;HZW;HZZZ;N;H;S;P;SP;D;HZ;HG;SZ;SWZ;ST;SG;PD;PZ;TN;
     SZZ;SWG;HXWG;HZZZG;PG;Q
   31F0|kt l m |KU;SI;SU;TO;NU;HA;HI;HU;HE;HO;MU;RA;RI;RU;RE;RO
   3200|pz hl |ki;NIEUN;fj;RIEUL;MIEUM;PIEUP;SIOS;IEUNG;CIEUC;eo;ke;gf;pp;HIEUH;ki A;NIEUN A;fj A;RIEUL A;MIEUM A;
     PIEUP A;SIOS A;IEUNG A;CIEUC A;eo A;ke A;gf A;pp A;HIEUH A;CIEUC U
   321D|pz KOREAN gv O|JEON; HU
   3220|pz IDEOGRAPH |o;t;h;u;fi;si;se;ei;ni;te;mn;FIRE;wt;WOOD;METAL;EARTH;SUN;STOCK;HAVE;SOCIETY;NAME;SPECIAL;
     FINANCIAL;CONGRATULATION;LABOR;REPRESENT;CALL;STUDY;SUPERVISE;ENTERPRISE;RESOURCE;ALLIANCE;FESTIVAL;REST;SELF;
     REACH
   3244|cr IDEOGRAPH |qe;KINDERGARTEN;SCHOOL;KOTO
   3248|cr nu |te ON p sq;tw ON p sq;ty ON p sq;ft ON p sq;ff ON p sq;aw ON p sq;sv ON p sq;ey ON p sq
   3250|PARTNERSHIP s|
   3251|cr nu tw |o;t;h;u;fi;si;se;ei;ni
   325A|cr nu ty|; o; t; h; u; fi
   3260|cr hl |ki;NIEUN;fj;RIEUL;MIEUM;PIEUP;SIOS;IEUNG;CIEUC;eo;ke;gf;pp;HIEUH;ki A;NIEUN A;fj A;RIEUL A;MIEUM A;
     PIEUP A;SIOS A;IEUNG A;CIEUC A;eo A;ke A;gf A;pp A;HIEUH A
   327C|cr KOREAN gv |CHAMKO;JUEUI
   327E||cr hl IEUNG U;KOREAN STANDARD y
   3280|cr IDEOGRAPH |o;t;h;u;fi;si;se;ei;ni;te;mn;FIRE;wt;WOOD;METAL;EARTH;SUN;STOCK;HAVE;SOCIETY;NAME;SPECIAL;
     FINANCIAL;CONGRATULATION;LABOR;SECRET;MALE;FEMALE;SUITABLE;EXCELLENT;PRINT;ATTENTION;ITEM;REST;COPY;CORRECT;hi;
     ce;lw;e;r;MEDICINE;RELIGION;STUDY;SUPERVISE;ENTERPRISE;RESOURCE;ALLIANCE;NIGHT
   32B1|cr nu ty |si;se;ei;ni
   32B5|cr nu f|t;t o;t t;t h;t u;t fi;t si;t se;t ei;t ni;f
   32C0|ie TELEGRAPH y fo |JANUARY;FEBRUARY;MARCH;APRIL;MAY;JUNE;JULY;AUGUST;SEPTEMBER;OCTOBER;NOVEMBER;DECEMBER
   32CC||sq HG;sq ERG;sq EV;LIMITED LIABILITY s
   32D0|cr kt |;K;S;T;N;H;M|A;I;U;E;O
   32F3|cr kt |YA;YU;YO;RA;RI;RU;RE;RO;WA;WI;WE;WO
   32FF|sq |ERA NAME REIWA;APAATO;ARUHUA;ANPEA;AARU;ININGU;INTI;UON;ESUKUUDO;EEKAA;ONSU;OOMU;KAIRI;KARATTO;KARORII;
     GARON;GANMA;GIGA;GINII;KYURII;GIRUDAA;KIRO;KIROGURAMU;KIROMEETORU;KIROWATTO;GURAMU;GURAMUTON;KURUZEIRO;KUROONE;
     KEESU;KORUNA;KOOPO;SAIKURU;SANTIIMU;SIRINGU;SENTI;SENTO;DAASU;DESI;DORU;TON;NANO;NOTTO;HAITU;PAASENTO;PAATU;
     BAARERU;PIASUTORU;PIKURU;PIKO;BIRU;HUARADDO;HUIITO;BUSSYERU;HURAN;HEKUTAARU;PESO;PENIHI;HERUTU;PENSU;PEEZI;BEETA;
     POINTO;BORUTO;HON;PONDO;HOORU;HOON;MAIKURO;MAIRU;MAHHA;MARUKU;MANSYON;MIKURON;MIRI;MIRIBAARU;MEGA;MEGATON;
     MEETORU;YAADO;YAARU;YUAN;RITTORU;RIRA;RUPII;RUUBURU;REMU;RENTOGEN;WATTO
   3358|ie TELEGRAPH y fo HOUR |ze;o;t;h;u;fi;si;se;ei;ni;te;ELEVEN;ej;THIRTEEN;FOURTEEN;fq;hv;js;ix;NINETEEN;tw;
     TWENTY-ONE;TWENTY-TWO;TWENTY-THREE;TWENTY-FOUR
   3371|sq |HPA;DA;AU;ba;OV;PC;DM;DM sd;DM CUBED;IU
   337B|sq ERA NAME |HEISEI;SYOUWA;TAISYOU;MEIZI
   337F|sq |CORPORATION;PA AMPS;NA;MU A;MA;KA;KB;MB;GB;CAL;KCAL;PF;NF;MU F;MU G;MG;KG;HZ;KHZ;MHZ;GHZ;THZ;MU L;ML;DL;
     KL;FM;NM;MU M;MM;CM;KM;MM sd;CM sd;M sd;KM sd;MM CUBED;CM CUBED;M CUBED;KM CUBED;M ov S;M ov S sd;PA;KPA;MPA;GPA;
     RAD;RAD ov S;RAD ov S sd;PS;NS;MU S;MS;PV;NV;MU V;MV;KV;MV MEGA;PW;NW;MU W;MW;KW;MW MEGA;K OHM;M OHM;AM;BQ;CC;CD;
     C ov KG;CO;DB;GY;HA;HP;IN;KK;KM c;KT;LM;LN;LOG;LX;MB m;MIL;MOL;PH;PM;PPM;PR;SR;SV;WB;V ov M;A ov M
   33E0|ie TELEGRAPH y fo DAY |o;t;h;u;fi;si;se;ei;ni;te;ELEVEN;ej;THIRTEEN;FOURTEEN;fq;hv;js;ix;NINETEEN;tw;
     TWENTY-ONE;TWENTY-TWO;TWENTY-THREE;TWENTY-FOUR;TWENTY-FIVE;TWENTY-SIX;TWENTY-SEVEN;TWENTY-EIGHT;TWENTY-NINE;ty;
     THIRTY-ONE
   33FF|sq GAL|
   4DC0|HEXAGRAM fo |tf CREATIVE HEAVEN;tf RECEPTIVE EARTH;DIFFICULTY AT tf BEGINNING;YOUTHFUL FOLLY;WAITING;
     CONFLICT;tf ARMY;HOLDING TOGETHER;m TAMING;TREADING;PEACE;STANDSTILL;FELLOWSHIP;GREAT POSSESSION;MODESTY;
     ENTHUSIASM;FOLLOWING;WORK ON tf DECAYED;APPROACH;CONTEMPLATION;BITING fh;GRACE;SPLITTING APART;RETURN;INNOCENCE;
     GREAT TAMING;mt CORNERS;GREAT PREPONDERANCE;tf ABYSMAL wt;tf CLINGING FIRE;INFLUENCE;DURATION;RETREAT;
     GREAT POWER;PROGRESS;DARKENING OF tf li;tf FAMILY;OPPOSITION;OBSTRUCTION;DELIVERANCE;DECREASE;INCREASE;
     BREAKTHROUGH;COMING TO MEET;GATHERING TOGETHER;PUSHING UPWARD;OPPRESSION;tf WELL;REVOLUTION;tf CAULDRON;
     tf AROUSING THUNDER;tf KEEPING STILL mb;DEVELOPMENT;tf MARRYING MAIDEN;ABUNDANCE;tf WANDERER;tf GENTLE WIND;
     tf JOYOUS LAKE;DISPERSION;LIMITATION;INNER TRUTH;m PREPONDERANCE;AFTER COMPLETION;BEFORE COMPLETION
   A000|YI sy |I;IE;A|T;X;;P
   A00C|YI sy |UOX;UO;UOP;OT;OX;O;OP;EX;E;WU
   A016|YI sy B|I;IE;A|T;X;;P
   A022|YI sy B|UOX;UO;UOP;OT;OX;O;OP;EX;E;EP
   A02C|YI sy B|U;Y|T;X;;P;RX;R
   A038|YI sy P|IT;IX;I;IP;IEX;IE;IEP;AT;AX;A;AP;UOX;UO;UOP;OT;OX;O;OP
   A04A|YI sy P|U;Y|T;X;;P;RX;R
   A056|YI sy BB|I;IE;A|T;X;;P
   A062|YI sy BB|UOX;UO;UOP;OT;OX;O;OP;EX;E;EP;UT;UX;U;UP;URX;UR;YT;YX;Y;YP
   A076|YI sy NBI|T;X;;P;EX;E;EP
   A07D|YI sy NB|A;O|T;X;;P
   A085|YI sy NB|U;Y|T;X;;P;RX;R
   A091|YI sy HM|IT;IX;I;IP;IEX;IE;IEP;AT;AX;A;AP;UOX;UO;UOP;OT;OX;O;OP;UT
   A0A4|YI sy HM|U;Y|X;;P;RX;R
   A0AE|YI sy MI|T;X;;P;EX;E;EP
   A0B5|YI sy M|A;UO;O|T;X;;P
   A0C1|YI sy M|EX;E;UT;UX;U;UP;URX;UR
   A0C9|YI sy |MY;FI;FA|T;X;;P
   A0D5|YI sy F|OX;O;OP;UT;UX;U;UP;URX;UR
   A0DE|YI sy |FY;VI;VIE;VA;VO|T;X;;P
   A0F2|YI sy VE|X;P
   A0F4|YI sy V|U;Y|T;X;;P;RX;R
   A100|YI sy |DIT;DIX;DI;DIP;DIEX;DIE;DIEP;DAT;DAX;DA;DAP;DUOX;DUO;i;DOX;DO;DOP;DEX;DE;DEP;DUT;DUX;DU;DUP;DURX;DUR;
     TIT;TIX;TI;TIP;TIEX;TIE;TIEP;TAT;TAX;TA;TAP;TUOT;TUOX;TUO;TUOP;TOT;TOX;TO;tg;TEX;TE;TEP;TUT;TUX;TU;TUP;TURX;TUR;
     DDIT;DDIX;DDI;DDIP;DDIEX;DDIE;DDIEP;DDAT;DDAX;dd
   A140|YI sy DD|AP;UOX;UO;UOP;OT;OX;O;OP;EX;E;EP;UT;UX;U;UP;URX;UR
   A151|YI sy ND|IT;IX;I;IP;IEX;IE;AT;AX;A;AP;OT;OX;O;OP;EX;E;EP;UT;UX;U;UP;URX;UR
   A168|YI sy HN|I;IE;A|T;X;;P
   A174|YI sy HN|UOX;UO;OT;OX;OP;EX;E;EP;UT
   A17D|YI sy NIT|
   A17E|YI sy N|I;IE;A;UO|X;;P
   A18A|YI sy |nt;NOX;NO;NOP;NEX;NE;NEP;NUT;NUX;NU;NUP;NURX;NUR
   A197|YI sy HL|IT;IX;I;IP;IEX;IE;IEP;AT
   A19F|YI sy HL|A;UO;O;E|X;;P
   A1AB|YI sy HL|U;Y|T;X;;P;RX;R
   A1B7|YI sy L|I;IE;A;UO;O|T;X;;P
   A1CB|YI sy LE|X;;P
   A1CE|YI sy L|U;Y|T;X;;P;RX;R
   A1DA|YI sy G|I;IE;A;UO;O;E;U|T;X;;P
   A1F6|YI sy GUR|X;
   A1F8|YI sy K|IT;IX;I;IP;IEX;IE;IEP;AT;AX;A;AP;UOX;UO;UOP;OT;OX;O;OP;ET;EX;E;EP;UT;UX;U;UP;URX;UR
   A214|YI sy GGI|T;X;;EX;E;EP
   A21A|YI sy GG|A;UO;O;E;U|T;X;;P
   A22E|YI sy GGUR|X;
   A230|YI sy MG|IEX;IE;AT;AX;A;AP;UOX;UO;UOP;OT;OX;O;OP;EX;E;EP;UT;UX;U;UP;URX;UR
   A246|YI sy HX|I;IE;A;UO;O|T;X;;P
   A25A|YI sy |HXE;NGIE|X;;P
   A260|YI sy |NGAT;NGAX;ng;NGAP;NGUOT;NGUOX;NGUO;NGOT;NGOX;NGO;NGOP;NGEX;NGE;NGEP;HIT;HIEX;HIE
   A271|YI sy H|A;UO;O|T;X;;P
   A27D|YI sy |HEX;HE;HEP;WAT
   A281|YI sy W|A;UO;O;E|X;;P
   A28D|YI sy Z|IT;IX;I;IP;IEX;IE;IEP;AT;AX;A;AP;UOX;UO;UOP;OT;OX;O;OP;EX;E;EP
   A2A2|YI sy Z|U;Y|T;X;;P;RX;R
   A2AE|YI sy C|I;IE;A|T;X;;P
   A2BA|YI sy C|UOX;UO;UOP;OT;OX;O;OP;EX;E;EP
   A2C4|YI sy C|U;Y|T;X;;P;RX;R
   A2D0|YI sy ZZ|I;IE;A|T;X;;P
   A2DC|YI sy ZZ|OX;O;OP;EX;E;EP;UX;U;UP;URX;UR;YT;YX;Y;YP;YRX;YR
   A2ED|YI sy NZ|IT;IX;I;IP;IEX;IE;IEP;AT;AX;A;AP;UOX;UO;OX;OP;EX;E;UX;U;UP;URX;UR;YT;YX;Y;YP;YRX;YR
   A309|YI sy |SIT;si
   A30B|YI sy S|I;IP;IEX;IE;IEP;AT;AX;A;AP;UOX;UO;UOP;OT;OX;O;OP;EX;E;EP
   A31E|YI sy S|U;Y|T;X;;P;RX;R
   A32A|YI sy SS|IT;IX;I;IP;IEX;IE;IEP;AT;AX;A;AP;OT;OX;O;OP;EX;E;EP;UT;UX;U;UP;YT;YX;Y;YP;YRX;YR
   A346|YI sy ZH|AT;AX;A;AP;UOX;UO;UOP;OT;OX;O;OP;ET;EX;E;EP
   A355|YI sy ZH|U;Y|T;X;;P;RX;R
   A361|YI sy |CHAT;CHAX;ch;CHAP
   A365|YI sy CH|UO;O;E|T;X;;P
   A371|YI sy CH|UX;U;UP;URX;UR;YT;YX;Y;YP;YRX;YR
   A37C|YI sy RR|AX;A;UOX;UO;OT;OX;O;OP;ET;EX;E;EP
   A388|YI sy RR|U;Y|T;X;;P;RX;R
   A394|YI sy NR|AT;AX;A;AP;OX;O;OP;ET;EX;E;EP
   A39F|YI sy NR|U;Y|T;X;;P;RX;R
   A3AB|YI sy |SHAT;SHAX;sh;SHAP;SHUOX;SHUO;SHUOP
   A3B2|YI sy SH|O;E|T;X;;P
   A3BA|YI sy SH|U;Y|T;X;;P;RX;R
   A3C6|YI sy R|AT;AX;A;AP;UOX;UO;UOP;OT;OX;O;OP;EX;E;EP
   A3D4|YI sy R|U;Y|T;X;;P;RX;R
   A3E0|YI sy |J;Q|IT;IX;I;IP;IET;IEX;IE;IEP;UOT;UOX;UO;UOP;OT;OX;O;OP;UT;UX;U;UP;URX;UR;YT;YX;Y;YP;YRX;YR
   A418|YI sy JJ|IT;IX;I;IP;IET;IEX;IE;IEP;UOX;UO;UOP;OT;OX;O;OP;UT;UX;U;UP;URX;UR
   A42D|YI sy |JJY;NJI;NJIE|T;X;;P
   A439|YI sy NJ|UOX;UO;OT;OX;O;OP;UX;U;UP;URX;UR;YT;YX;Y;YP;YRX;YR
   A44A|YI sy NYI|;E|T;X;;P
   A452|YI sy NYUO|X;;P
   A455|YI sy |NYO;NYU;XI;XIE|T;X;;P
   A465|YI sy X|UOX;UO;OT;OX;O;OP;YT;YX;Y;YP;YRX;YR
   A471|YI sy Y|I;IE;UO;O|T;X;;P
   A481|YI sy Y|U;Y|T;X;;P;RX;R
   A490|YI rd |QOT;LI;KIT;NYIP;CYP;SSI;GGOP;GEP;MI;HXIT;LYR;BBUT;MOP;YO;PUT;HXUO;TAT;GA;ZUP;CYT;DDUR;BUR;GGUO;NYOP;
     TU;OP;JJUT;ZOT;PYT;HMO;YIT;VUR;SHY;VEP;ZA;JO;NZUP;JJY;GOT;JJIE;WO;DU;SHUR;LIE;CY;CUOP;CIP;HXOP;SHAT;ZUR;SHOP;CHE;
     ZZIET;NBIE;KE
   A4D0|LISU l |BA;PA;ph;DA;TA;tb;GA;KA;kh;JA;CA;ch;DZA;TSA;TSHA;MA;NA;LA;SA;ZHA;ZA;ng;HA;XA;HHA;FA;WA;sh;YA;gh;A;
     AE;E;EU;I;O;U;UE;UH;OE;to MYA TI;to NA PO
   A4FA|LISU l to MYA |CYA;BO;NA;JEU
   A4FE|LISU pu |cm;fu so
   A500|VAI sy |EE;EEN;HEE;WEE;WEEN;PEE;BHEE;BEE;MBEE;KPEE;MGBEE;GBEE;FEE;VEE;TEE;THEE;DHEE;DHHEE;LEE;REE;DEE;NDEE;
     SEE;SHEE;ZEE;ZHEE;CEE;JEE;NJEE;YEE;KEE;NGGEE;GEE;MEE;NEE;NYEE;I;IN;HI;HIN;WI;WIN;PI;BHI;BI;MBI;KPI;MGBI;GBI;FI;
     VI;TI;THI;DHI;DHHI;LI;RI;DI;NDI;SI;SHI;ZI;ZHI;CI;JI;NJI;YI;KI;NGGI;GI;MI;NI;NYI;A;AN;NGAN;HA;HAN;WA;WAN;PA;bh;BA;
     MBA;KPA;KPAN;MGBA;GBA;FA;VA;TA;tb;dh;DHHA;LA;RA;DA;NDA;SA;sh;ZA;ZHA;CA;JA;NJA;YA;KA;KAN;NGGA;GA;MA;NA;ny;OO;OON;
     HOO;WOO;WOON;POO;BHOO;BOO;MBOO;KPOO;MGBOO;GBOO;FOO;VOO;TOO;THOO;DHOO;DHHOO;LOO;ROO;DOO;NDOO;SOO;SHOO;ZOO;ZHOO;
     COO;JOO;NJOO;YOO;KOO;NGGOO;GOO;MOO;NOO;NYOO;U;UN;HU;HUN;WU;WUN;PU;BHU;BU;MBU;KPU;MGBU;GBU;FU;VU;TU;THU;DHU;DHHU;
     LU;RU;DU;NDU;SU;SHU;ZU;ZHU;CU;JU;NJU;YU;KU;NGGU;GU;MU;NU;NYU;O;ON;NGON;HO;HON;WO;WON;PO;BHO;BO;MBO;KPO;MGBO;GBO;
     GBON;FO;VO;TO;THO;DHO;DHHO;LO;RO;DO;NDO;SO;SHO;ZO;ZHO;CO;JO;NJO;YO;KO;NGGO;GO;MO;NO;NYO;E;EN;NGEN;HE;HEN;WE;WEN;
     PE;BHE;BE;MBE;KPE;KPEN;MGBE;GBE;GBEN;FE;VE;TE;tf;DHE;DHHE;LE;RE;DE;NDE;SE;SHE;ZE;ZHE;CE;JE;NJE;YE;KE;NGGE;NGGEN;
     GE;GEN;ME;NE;NYE;NG;LENGTHENER
   A60D|VAI |cm;fu so;qe k
   A610|VAI sy NDOLE |FA;KA;SOO
   A613|VAI y |FEENG;KEENG;TING;NII;BANG;FAA;TAA;DANG;DOONG;KUNG;TONG;DO-O;JONG
   A620|VAI di |ze;o;t;h;u;fi;si;se;ei;ni
   A62A|VAI sy NDOLE |MA;DO
   A640/cy |c;m| l |ZEMLYA;DZELO;re DZE;io;DJERV;MONOGRAPH UK;BROAD om;nr YER;YERU w BACK YER;if YAT;re YU;if A;
     cl lt YUS;BLENDED YUS;if cl lt YUS;YN;re TSE;SOFT DE;SOFT EL;SOFT EM;MONOCULAR O;BINOCULAR O;d MONOCULAR O
   A66E|cy l MULTIOCULAR O|
   A66F|co cy |VZMET;te MILLIONS s;hu MILLIONS s;th MILLIONS s
   A673|SLAVONIC at|
   A674|co cy l |UKRAINIAN IE;I;YI;U;HARD s;YERU;SOFT s;om
   A67C|c|o cy ;y |KAVYKA;PAYEROK
   A680/cy |c;m| l |DWE;DZWE;ZHWE;CCHE;DZZE;TE w mi ho;TWE;TSWE;TSSE;TCHE;HWE;SHWE;d O;er O
   A69C|mo l cy |HARD s;SOFT s
   A69E|co cy l |EF;if E
   A6A0|BAMUM l |A;KA;U;KU;EE;REE;TAE;O;NYI;I;LA;PA;RII;RIEE;LEEEE;MEEEE;TAA;NDAA;NJAEM;M;SUU;MU;SHII;SI;SHEUX;SEUX;
     KYEE;KET;NUAE;NU;NJUAE;YOQ;SHU;YUQ;YA;NSHA;KEUX;PEUX;NJEE;NTEE;PUE;WUE;PEE;FEE;RU;LU;MI;NI;REUX;RAE;KEN;NGKWAEN;
     NGGA;ng;SHO;PUAE;FU;FOM;WA;NA;LI;PI;LOQ;KO;MBEN;REN;MEN;MA;TI;KI;MO;MBAA;TET;KPA;te;NTUU;SAMBA;FAAMAE;KOVUU;KOGHOM
   A6F0|BAMUM |co k KOQNDON;co k TUKWENTIS;NJAEMLI;fu so;cd;cm;ee;qe k
   A700/mo l CHINESE to |YIN;YANG| |PING;SHANG;QU;RU
   A708|mo l |EXTRA-HIGH dc to ba;hi dc to ba;MID dc to ba;lw dc to ba;EXTRA-LOW dc to ba;EXTRA-HIGH dc lj to ba;
     hi dc lj to ba;MID dc lj to ba;lw dc lj to ba;EXTRA-LOW dc lj to ba;EXTRA-HIGH lj to ba;hi lj to ba;MID lj to ba;
     lw lj to ba;EXTRA-LOW lj to ba;i ve ba;i bi;i hr ba;lo r cf an;ra UP a;ra do a;ra ex k;ra iv ex k;lw iv ex k;
     STRESS n hi to;STRESS n lw to
   A722/v |c;m| l |EGYPTOLOGICAL al;EGYPTOLOGICAL AIN;HENG;TZ;TRESILLO;CUATRILLO;CUATRILLO w cm
   A730|v l m c |F;S
   A732/v |c;m| l |AA;AO;AU;AV;AV w hr ba;AY;re C w i;K w st;K w da st;K w st n da st;BROKEN L;L w hi st;
     O w ln st oa;O w LOOP;OO;P w st fh dl;P w FLOURISH;P w SQUIRREL tc;Q w st fh dl;Q w da st;R ROTUNDA;RUM ROTUNDA;
     V w da st;VY;VISIGOTHIC Z;THORN w st;THORN w st fh dl;VEND;ET;IS;CON
   A770|mo l US|
   A771|v m l |DUM;LUM;MUM;NUM;RUM
   A776|v |l m c RUM;m l TUM;m l UM
   A779/v |c;m| l iu |D;F
   A77D|v c l iu G|
   A77E/v |c;m| l |tr iu G;tr L;iu R;iu S;iu T
   A788|mo l |lw cc ae;cd;sr eu s
   A78B|v |c l SALTILLO;m l SALTILLO;c l tr H;m l L w rt ho n BELT;l SINOLOGICAL i
   A790/v |c;m| l |N w dl;C w ba
   A794|v m l |C w pt ho;H w pt ho
   A796/v |c;m| l |B w FLOURISH;F w st;VOLAPUK AE;VOLAPUK OE;VOLAPUK UE;G w oq st;K w oq st;N w oq st;R w oq st;
     S w oq st
   A7AA|v c l |H w ho;re op E;sc G;L w BELT;m c I
   A7AF|v l m c Q|
   A7B0|v c l |tr K;tr T;J w gy;CHI
   A7B4/v |c;m| l |BETA;om;U w st;gl A;gl I;gl U;ol POLISH O;ANGLICANA W
   A7C4|v c l |C w pt ho;S w ho;Z w pt ho
   A7C7/v |c;m| l |D w sr st oa;S w sr st oa
   A7D0|v |c l cl iu G;m l cl iu G
   A7D3|v m l d THORN|
   A7D5|v m l d WYNN|
   A7D6/v |c;m| l |mi SCOTS S;SIGMOID S
   A7F2|mo l c |C;F;Q
   A7F5||v c l re ha H;v m l re ha H;v EPIGRAPHIC l jh I;mo l c H w st;mo l m lg OE;v l m c tr M
   A7FB|v EPIGRAPHIC l |re F;re P;iv M;I LONGA;ah M
   A800|SYLOTI NAGRI |l A;l I;s DVISVARA;l U;l E;l O;s HASANTA;l KO;l KHO;l GO;l GHO;s au
   A80C|SYLOTI NAGRI l |C;J;TT;DD;T;D|O;HO
   A818|SYLOTI NAGRI l |NO;PO;PHO;BO;BHO;MO;RO;LO;RRO;SO;HO
   A823|SYLOTI NAGRI vo s |A;I;U;E;OO
   A828|SYLOTI NAGRI POETRY MARK-|1;2;3;4
   A82C|SYLOTI NAGRI s aa HASANTA|
   A830|no INDIC |fc o qu;fc o ha;fc h qr;fc o SIXTEENTH;fc o eh;fc h SIXTEENTHS;qu k;PLACEHOLDER k;RUPEE k;
     QUANTITY k
   A840|PHAGS-PA l |KA;kh;GA;ng;CA;ch;JA;ny;TA;tb;DA;NA;PA;ph;BA;MA;TSA;TSHA;DZA;WA;ZHA;ZA;m A;YA;RA;LA;sh;SA;HA;A;
     I;U;E;O;QA;XA;FA;GGA;EE
   A867|PHAGS-PA |ig l WA;ig l YA;l tt;l td;l dd;l na;l aa YA;l VOICELESS sh;l VOICED HA;l ASPIRATED FA;ig l RA;
     SUPERFIXED l RA;l ca;sn HEAD k;d HEAD k;k SHAD;k d SHAD
   A880|jr s |au;vs
   A882|jr l |A;AA;I;II;U;UU;vc R;vc RR;vc L;vc LL;E;EE;AI;O;OO;AU;KA;kh;GA;gh;ng;CA;ch;JA;JHA;ny;tt;td;dd;db;na;TA;
     tb;DA;dh;NA;PA;ph;BA;bh;MA;YA;RA;LA;VA;sh;SSA;SA;HA;LLA
   A8B4|jr ct s HAARU|
   A8B5|jr vo s |AA;I;II;U;UU;vc R;vc RR;vc L;vc LL;E;EE;AI;O;OO;AU
   A8C4|jr s |vi;ca
   A8CE|jr d|n; dn
   A8D0|jr di |ze;o;t;h;u;fi;si;se;ei;ni
   A8E0|co dv di |ze;o;t;h;u;fi;si;se;ei;ni
   A8EA|co dv |l A;l U;l KA;l NA;l PA;l RA;l VI;s ay
   A8F2|dv s |SPACING ca;ca vi;d ca vi;ca t;ca h;ca ay;PUSHPIKA
   A8F9|dv |GAP FILLER;CARET;HEADSTROKE;s ad;JAIN OM;l AY;vo s AY
   A900|KAYAH LI di |ze;o;t;h;u;fi;si;se;ei;ni
   A90A|KAYAH LI l |KA;kh;GA;ng;SA;sh;ZA;ny;TA;HTA;NA;PA;ph;MA;DA;BA;RA;YA;LA;WA;tb;HA;VA;CA;A;OE;I;OO
   A926|KAYAH LI |vo UE;vo E;vo U;vo EE;vo O;to PLOPHU;to CALYA;to CALYA PLOPHU;s CWI;s SHYA
   A930|REJANG l |KA;GA;ng;TA;DA;NA;PA;BA;MA;CA;JA;ny;SA;RA;LA;YA;WA;HA;MBA;NGGA;NDA;NYJA;A
   A947|REJANG vo s |I;U;E;AI;O;AU;EU;EA
   A94F|REJANG ct s |NG;N;R;H
   A953|REJANG vi|
   A95F|REJANG sj k|
   A960|hl gx TIKEUT-|MIEUM;PIEUP;SIOS;CIEUC
   A964|hl gx RIEUL-|KIYEOK;SSANGKIYEOK;TIKEUT;SSANGTIKEUT;MIEUM;PIEUP;SSANGPIEUP;KAPYEOUNPIEUP;SIOS;CIEUC;KHIEUKH
   A96F|hl gx |MIEUM-KIYEOK;MIEUM-TIKEUT;MIEUM-SIOS;PIEUP-SIOS-THIEUTH;PIEUP-KHIEUKH;PIEUP-HIEUH;SSANGSIOS-PIEUP;
     IEUNG-RIEUL;IEUNG-HIEUH;SSANGCIEUC-HIEUH;SSANGTHIEUTH;PHIEUPH-HIEUH;HIEUH-SIOS;SSANGYEORINHIEUH
   A980|ja s |PANYANGGA;CECAK;LAYAR;WIGNYAN
   A984|ja l |A;I KAWI;I;II;U;PA CEREK;ng LELET;ng LELET RASWADI;E;AI;O;KA;KA SASAK;KA MURDA;GA;GA MURDA;ng;CA;
     CA MURDA;JA;ny MURDA;JA mr;ny;tt;tt mr;dd;dd mr;NA MURDA;TA;TA MURDA;DA;DA mr;NA;PA;PA MURDA;BA;BA MURDA;MA;YA;
     RA;RA AGUNG;LA;WA;SA MURDA;SA mr;SA;HA
   A9B3|ja s CECAK TELU|
   A9B4|ja vo s |TARUNG;TOLONG;WULU;WULU MELIK;SUKU;SUKU MENDUT;TALING;DIRGA MURE;PEPET
   A9BD|ja ct s |KERET;PENGKAL;CAKRA
   A9C0|ja |PANGKON;e RERENGGAN;r RERENGGAN
   A9C3|ja PADA |ANDAP;MADYA;LUHUR;WINDU;PANGKAT;LINGSA;LUNGSI;ADEG;ADEG ADEG;PISELEH
   A9CD|ja tr PADA PISELEH|
   A9CF|ja PANGRANGKEP|
   A9D0|ja di |ze;o;t;h;u;fi;si;se;ei;ni
   A9DE|ja PADA |TIRTA TUMETES;ISEN-ISEN
   A9E0|my l SHAN |gh;ch;JHA;na;bh
   A9E5|my |s SHAN SAW;mo l SHAN REDUPLICATION
   A9E7|my l TAI LAING |ny;FA;GA;gh;JA;JHA;dd;db;na
   A9F0|my TAI LAING di |ze;o;t;h;u;fi;si;se;ei;ni
   A9FA|my l TAI LAING |LLA;DA;dh;BA;bh
   AA00|CHAM l |A;I;U;E;AI;O;KA;kh;GA;gh;NGUE;ng;ch;CHHA;JA;JHA;NHUE;NHA;NHJA;TA;tb;DA;dh;NUE;NA;dd;PA;PPA;ph;BA;bh;
     MUE;MA;BBA;YA;RA;LA;VA;SSA;SA;HA
   AA29|CHAM vo s |AA;I;II;EI;U;OE;O;AI;AU;UE
   AA33|CHAM ct s |YA;RA;LA;WA
   AA40|CHAM |l x K;l x G;l x NG;ct s x NG
   AA44|CHAM l x |CH;T;N;P;Y;R;L;SS
   AA4C|CHAM ct s x |M;H
   AA50|CHAM di |ze;o;t;h;u;fi;si;se;ei;ni
   AA5C|CHAM pu |SPIRAL;dn;d dn;tp dn
   AA60|my l KHAMTI |GA;CA;ch;JA;JHA;ny;tt;td;dd;db;dh;NA;SA;HA;HHA;FA
   AA70|my mo l KHAMTI REDUPLICATION|
   AA71|my l KHAMTI |XA;ZA;RA
   AA74|my LOGOGRAM KHAMTI |OAY;QN;HM
   AA77|my y AITON |ex;o;t
   AA7A|my |l AITON RA;s PAO KAREN to
   AA7C|my s TAI LAING TONE-|2;5
   AA7E|my l SHWE PALAUNG |ch;sh
   AA80/TAI VIET l |lw;hi| |KO;KHO;KHHO;GO;NGO;CO;CHO;SO;NYO;DO;TO;THO;NO;BO;PO;PHO;FO;MO;YO;RO;LO;VO;HO;O
   AAB0|TAI VIET |MAI KANG;vo AA;vo I;vo UE;vo U;vo E;vo O;MAI KHIT
   AAB8|TAI VIET vo |IA;UEA;UA;AUE;AY;AN;AM
   AABF|TAI VIET to MAI |EK;NUENG;THO;SONG
   AADB|TAI VIET y |KON;NUENG;SAM;HO HOI;KOI KOI
   AAE0|MEETEI MAYEK l |E;O;ch;ny;tt;td;dd;db;na;sh;SSA
   AAEB|MEETEI MAYEK vo s |II;UU;AAI;AU;AAU
   AAF0|MEETEI MAYEK |CHEIKHAN;AHANG KHUDAM;ANJI;sy REPETITION k;WORD REPETITION k;vo s vs;vi
   AB01|et sy TTH|U;I;AA;EE;E;O
   AB09|et sy DDH|U;I;AA;EE;E;O
   AB11|et sy DZ|U;I;AA;EE;E;O
   AB20|et sy CCHH|A;U;I;AA;EE;E;O
   AB28|et sy BB|A;U;I;AA;EE;E;O
   AB30|v m l |BARRED ap;A REVERSED-SCHWA;BLACKLETTER E;BARRED E;E w FLOURISH;LENIS F;sc G w gy;L w iv LAZY S;
     L w d mi tl;L w mi rn;M w gy;N w gy;ENG w gy;BLACKLETTER O;BLACKLETTER O w st;op O w st;iv OE;tr OE w st;
     tr OE w hr st;tr O OPEN-O;tr O OPEN-O w st;STIRRUP R
   AB46|v l m c R w r LEG|
   AB47|v m l |R WITHOUT HANDLE;d R;R w gy;d R w gy;sc R;sc R w rn;BASELINE ESH;U w sr r LEG;U ba w sr r LEG;UI;
     tr UI;U w e ho;CHI;CHI w lw r rn;CHI w lw e SERIF;X w lw r rn
   AB57|v m l X w ln e LEG|; n lw r rn; w SERIF
   AB5A||v m l Y w sr r LEG;mo be w iv be
   AB5C|mo l m |HENG;L w iv LAZY S;L w mi tl;U w e ho
   AB60|v m l |SAKHA YAT;if E;op OE;UO;iv ap
   AB65|gr l m c om|
   AB66|v m l |DZ dg w rt ho;TS dg w rt ho;tr R w mi tl
   AB69|mo l |m tr W;e tk;r tk
   AB70|CHEROKEE m l |A;E;I;O;U;V;GA;KA;GE;GI;GO;GU;GV;HA;HE;HI;HO;HU;HV;LA;LE;LI;LO;LU;LV;MA;ME;MI;MO;MU;NA;HNA;
     NAH;NE;NI;NO;NU;NV;QUA;QUE;QUI;QUO;QUU;QUV;SA;S;SE;SI;SO;SU;SV;DA;TA;DE;TE;DI;TI;DO;DU;DV;DLA
   ABAD|CHEROKEE m l |TL;TS;W|A;E;I;O;U;V
   ABBF|CHEROKEE m l YA|
   ABC0|MEETEI MAYEK l |KOK;SAM;LAI;MIT;PA;NA;CHIL;TIL;KHOU;NGOU;THOU;WAI;YANG;HUK;UN;I;PHAM;ATIYA;GOK;JHAM;RAI;BA;
     JIL;DIL;GHOU;DHOU;BHAM;KOK LONSUM;LAI LONSUM;MIT LONSUM;PA LONSUM;NA LONSUM;TIL LONSUM;NGOU LONSUM;I LONSUM
   ABE3|MEETEI MAYEK vo s |ONAP;INAP;ANAP;YENAP;SOUNAP;UNAP;CHEINAP;NUNG
   ABEB|MEETEI MAYEK |CHEIKHEI;LUM IYEK;APUN IYEK
   ABF0|MEETEI MAYEK di |ze;o;t;h;u;fi;si;se;ei;ni
   D7B0|hl JUNGSEONG |O-YEO;O-O-I;YO-A;YO-AE;YO-EO;U-YEO;U-I-I;YU-AE;YU-O;EU-A;EU-EO;EU-E;EU-O;I-YA-O;I-YAE;I-YEO;
     I-YE;I-O-I;I-YO;I-YU;I-I;ARAEA-A;ARAEA-E
   D7CB|hl JONGSEONG |NIEUN-RIEUL;NIEUN-CHIEUCH;SSANGTIKEUT;SSANGTIKEUT-PIEUP;TIKEUT-PIEUP;TIKEUT-SIOS;
     TIKEUT-SIOS-KIYEOK;TIKEUT-CIEUC;TIKEUT-CHIEUCH;TIKEUT-THIEUTH;RIEUL-SSANGKIYEOK;RIEUL-KIYEOK-HIEUH;
     SSANGRIEUL-KHIEUKH;RIEUL-MIEUM-HIEUH;RIEUL-PIEUP-TIKEUT;RIEUL-PIEUP-PHIEUPH;RIEUL-YESIEUNG;
     RIEUL-YEORINHIEUH-HIEUH;KAPYEOUNRIEUL;MIEUM-NIEUN;MIEUM-SSANGNIEUN;SSANGMIEUM;MIEUM-PIEUP-SIOS;MIEUM-CIEUC;
     PIEUP-TIKEUT;PIEUP-RIEUL-PHIEUPH;PIEUP-MIEUM;jz;PIEUP-SIOS-TIKEUT;PIEUP-CIEUC;PIEUP-CHIEUCH;SIOS-MIEUM;
     SIOS-KAPYEOUNPIEUP;SSANGSIOS-KIYEOK;SSANGSIOS-TIKEUT;SIOS-PANSIOS;SIOS-CIEUC;SIOS-CHIEUCH;SIOS-THIEUTH;
     SIOS-HIEUH;PANSIOS-PIEUP;PANSIOS-KAPYEOUNPIEUP;YESIEUNG-MIEUM;YESIEUNG-HIEUH;CIEUC-PIEUP;CIEUC-SSANGPIEUP;
     SSANGCIEUC;PHIEUPH-SIOS;PHIEUPH-THIEUTH
   FB00|v m lg |FF;FI;FL;FFI;FFL;ln S T;ST
   FB13|ik m lg |MEN NOW;MEN ECH;MEN INI;VEW NOW;MEN XEH
   FB1D|hw |l YOD w HIRIQ;POINT JUDEO-SPANISH VARIKA;lg YIDDISH YOD YOD PATAH;l ALTERNATIVE AYIN
   FB21|hw l WIDE |al;DALET;HE;KAF;LAMED;x MEM;RESH;TAV
   FB29|hw l ALTERNATIVE pl s|
   FB2A|hw l sk w |;dj n |sk i;SIN i
   FB2E|hw l |al w PATAH;al w QAMATS;al w MAPIQ;BET w dj;gb w dj;DALET w dj;HE w MAPIQ;VAV w dj;za w dj
   FB38|hw l |TET w dj;YOD w dj;x KAF w dj;KAF w dj;LAMED w dj
   FB3E|hw l MEM w dj|
   FB40|hw l |nn w dj;bb w dj
   FB43|hw l |x PE w dj;PE w dj
   FB46|hw l| TSADI w dj; QOF w dj; RESH w dj; sk w dj; TAV w dj; VAV w HOLAM; BET w RAFE; KAF w RAFE; PE w RAFE;
     g al LAMED
   FB50|q l al WASLA |is f;x f
   FB52|q l |BEEH ;PEH ;BEHEH ;TTEHEH ;TEHEH ;TTEH ;VEH ;PEHEH ;DYEH ;NYEH ;TCHEH ;TCHEHEH |is f;x f;in f;ml f
   FB82|q l |DDAHAL ;DAHAL ;DUL ;DDAL ;JEH ;RREH |is f;x f
   FB8E|q l |KEHEH ;GAF ;GUEH ;NGOEH |is f;x f;in f;ml f
   FB9E|q l nb GHUNNA |is f;x f
   FBA0|q l RNOON |is f;x f;in f;ml f
   FBA4|q l HEH w ye b |is f;x f
   FBA6|q l HEH |GOAL ;DOACHASHMEE |is f;x f;in f;ml f
   FBAE|q l ye BARREE |;w hm b |is f;x f
   FBB2|q y |i ;t dt ;h dt ;h dt po dw ;u dt |b;g
   FBBC|q y |d ve ba g;t dt vt b;t dt vt g;rn;m TAH b;m TAH g;WASLA b
   FBD3|q l NG |is f;x f;in f;ml f
   FBD7|q l |U ;OE ;YU |is f;x f
   FBDD|q l U w hm b is f|
   FBDE|q l |VE ;KIRGHIZ OE ;KIRGHIZ YU ;E |is f;x f
   FBE6|q l |E ;UIGHUR KAZAKH KIRGHIZ al mk |in f;ml f
   FBEA|q lg ye w hm b w |al ;AE ;WAW ;U ;OE ;YU |is f;x f
   FBF6|q l|g ye w hm b w E ;g UIGHUR KIRGHIZ ye w hm b w al mk ; FARSI ye |is f;x f;in f
   FBFF|q l FARSI ye ml f|
   FC00|q lg ye w hm b w |je is f;hh is f;me is f;al mk is f;ye is f
   FC05|q lg |BEH w ;TEH w |je is f;hh is f;ka is f;me is f;al mk is f;ye is f
   FC11|q lg THEH w |je is f;me is f;al mk is f;ye is f
   FC15|q lg |je w hh is f;je w me is f;hh w je is f;hh w me is f;ka w je is f;ka w hh is f;ka w me is f;
     sf w je is f;sf w hh is f;sf w ka is f;sf w me is f;SAD w hh is f;SAD w me is f;DAD w je is f;DAD w hh is f;
     DAD w ka is f;DAD w me is f;TAH w hh is f;TAH w me is f;ZAH w me is f
   FC29|q lg |AIN w ;gi w |je is f;me is f
   FC2D|q lg FEH w |je is f;hh is f;ka is f;me is f;al mk is f;ye is f
   FC33|q lg QAF w |hh is f;me is f;al mk is f;ye is f
   FC37|q lg KAF w |al is f;je is f;hh is f;ka is f;lm is f;me is f;al mk is f;ye is f
   FC3F|q lg |lm w ;me w ;nb w |je is f;hh is f;ka is f;me is f;al mk is f;ye is f
   FC51|q lg HEH w |je is f;me is f;al mk is f;ye is f
   FC55|q lg ye w |je is f;hh is f;ka is f;me is f;al mk is f;ye is f
   FC5B|q lg |THAL w ed al is f;REH w ed al is f;al mk w ed al is f
   FC5E|q lg SHADDA w |DAMMATAN is f;KASRATAN is f;FATHA is f;DAMMA is f;KASRA is f;ed al is f
   FC64|q lg |ye w hm b w ;BEH w ;TEH w ;THEH w |REH x f;ZAIN x f;me x f;nb x f;al mk x f;ye x f
   FC7C|q lg |FEH w ;QAF w |al mk x f;ye x f
   FC80|q lg KAF w |al x f;lm x f
   FC82|q lg |KAF w ;lm w |me x f;al mk x f;ye x f
   FC88|q lg me w |al x f;me x f
   FC8A|q lg nb w |REH x f;ZAIN x f;me x f;nb x f;al mk x f;ye x f
   FC90|q lg al mk w ed al x f|
   FC91|q lg ye w |REH x f;ZAIN x f;me x f;nb x f;al mk x f;ye x f
   FC97|q lg |ye w hm b w ;BEH w ;TEH w |je in f;hh in f;ka in f;me in f;HEH in f
   FCA6|q lg |THEH w me in f;je w hh in f;je w me in f
   FCA9|q lg |hh w ;ka w |je in f;me in f
   FCAD|q lg sf w je in f|
   FCAE|q lg |sf w ;SAD w |hh in f;ka in f;me in f
   FCB4|q lg DAD w |je in f;hh in f;ka in f;me in f
   FCB8|q lg |TAH w hh in f;ZAH w me in f
   FCBA|q lg |AIN w ;gi w |je in f;me in f
   FCBE|q lg FEH w |je in f;hh in f;ka in f;me in f
   FCC2|q lg QAF w |hh in f;me in f
   FCC4|q lg KAF w |je in f;hh in f;ka in f;lm in f;me in f
   FCC9|q lg lm w |je in f;hh in f;ka in f;me in f;HEH in f
   FCCE|q lg |me w ;nb w |je in f;hh in f;ka in f;me in f
   FCD6|q lg nb w HEH in f|
   FCD7|q lg HEH w |je in f;me in f;ed al in f
   FCDA|q lg ye w |je in f;hh in f;ka in f;me in f;HEH in f
   FCDF|q lg |ye w hm b w ;BEH w ;TEH w ;THEH w ;sf w ;sz w |me ml f;HEH ml f
   FCEB|q lg |KAF w lm ml f;KAF w me ml f;lm w me ml f
   FCEE|q lg |nb w ;ye w |me ml f;HEH ml f
   FCF2|q lg SHADDA w |FATHA ml f;DAMMA ml f;KASRA ml f
   FCF5|q lg |TAH w ;AIN w ;gi w ;sf w ;sz w ;hh w ;je w ;ka w ;SAD w ;DAD w |al mk is f;ye is f
   FD09|q lg sz w |je is f;hh is f;ka is f;me is f;REH is f
   FD0E|q lg |sf w REH is f;SAD w REH is f;DAD w REH is f
   FD11|q lg |TAH w ;AIN w ;gi w ;sf w ;sz w ;hh w ;je w ;ka w ;SAD w ;DAD w |al mk x f;ye x f
   FD25|q lg sz w |je x f;hh x f;ka x f;me x f;REH x f
   FD2A|q lg |sf w REH x f;SAD w REH x f;DAD w REH x f;sz w je in f;sz w hh in f;sz w ka in f;sz w me in f;
     sf w HEH in f;sz w HEH in f;TAH w me in f
   FD34|q lg s|f w ;z w |je ml f;hh ml f;ka ml f
   FD3A|q lg |TAH w me ml f;ZAH w me ml f
   FD3C|q lg al w FATHATAN |x f;is f
   FD3E|ORNATE |e pa;r pa
   FD40|q lg RAHIMAHU ALLAAH|
   FD41|q lg RADI ALLAAHU ANH|;AA;UM;UMAA;UNNA
   FD46|q lg |SALLALLAAHU ALAYHI WA-AALIH;ALAYHI AS-SALAAM;ALAYHIM AS-SALAAM;ALAYHIMAA AS-SALAAM;
     ALAYHI AS-SALAATU WAS-SALAAM;QUDDISA SIRRAH;SALLALLAHU ALAYHI WAAALIHEE WA-SALLAM;ALAYHAA AS-SALAAM;
     TABAARAKA WA-TAAALAA;RAHIMAHUM ALLAAH
   FD50|q lg TEH w |je w me in f;hh w je x f;hh w je in f;hh w me in f;ka w me in f;me w je in f;me w hh in f;
     me w ka in f
   FD58|q lg je w me w hh |x f;in f
   FD5A|q lg hh w me w |ye x f;al mk x f
   FD5C|q lg sf w |hh w je in f;je w hh in f;je w al mk x f
   FD5F|q lg sf w me w |hh x f;hh in f;je in f;me x f;me in f
   FD64|q lg SAD w |hh w hh x f;hh w hh in f;me w me x f
   FD67|q lg sz w |hh w me x f;hh w me in f;je w ye x f
   FD6A|q lg sz w me w |ka ;me |x f;in f
   FD6E|q lg DAD w |hh w al mk x f;ka w me x f;ka w me in f
   FD71|q lg TAH w me w |hh x f;hh in f;me in f;ye x f
   FD75|q lg AIN w |je w me x f;me w me x f;me w me in f;me w al mk x f
   FD79|q lg gi w me w |me x f;ye x f;al mk x f
   FD7C|q lg FEH w ka w me |x f;in f
   FD7E|q lg QAF w me w |hh x f;me x f
   FD80|q lg lm w hh w |me x f;ye x f;al mk x f
   FD83|q lg lm w je w je |in f;x f
   FD85|q lg lm w |ka w me ;me w hh |x f;in f
   FD89|q lg me w |hh w je in f;hh w me in f;hh w ye x f;je w hh in f;je w me in f;ka w je in f;ka w me in f
   FD92|q lg |me w je w ka in f;HEH w me w je in f;HEH w me w me in f
   FD95|q lg nb w |hh w me in f;hh w al mk x f;je w me x f;je w me in f;je w al mk x f;me w ye x f;me w al mk x f
   FD9C|q lg ye w me w me |x f;in f
   FD9E|q lg BEH w ka w ye x f|
   FD9F|q lg TEH w |je w ;ka w ;me w |ye x f;al mk x f
   FDA5|q lg |je w me w ye x f;je w hh w al mk x f;je w me w al mk x f;sf w ka w al mk x f;SAD w hh w ye x f;
     sz w hh w ye x f;DAD w hh w ye x f;lm w je w ye x f;lm w me w ye x f;ye w hh w ye x f;ye w je w ye x f;
     ye w me w ye x f;me w me w ye x f;QAF w me w ye x f;nb w hh w ye x f;QAF w me w hh in f;lm w hh w me in f;
     AIN w me w ye x f;KAF w me w ye x f;nb w je w hh in f;me w ka w ye x f;lm w je w me in f;KAF w me w me x f;
     lm w je w me x f;nb w je w hh x f;je w hh w ye x f;hh w je w ye x f;me w je w ye x f;FEH w me w ye x f;
     BEH w hh w ye x f;KAF w me w me in f;AIN w je w me in f;SAD w me w me in f;sf w ka w ye x f;nb w je w ye x f
   FDCF|q lg SALAAMUHU ALAYNAA|
   FDF0|q lg |SALLA USED AS KORANIC so s is f;QALA USED AS KORANIC so s is f;ALLAH is f;AKBAR is f;MOHAMMAD is f;
     SALAM is f;RASOUL is f;ALAYHE is f;WASALLAM is f;SALLA is f;SALLALLAHOU ALAYHE WASALLAM;JALLAJALALOUHOU
   FDFC|RIAL s|
   FDFD|q lg |BISMILLAH AR-RAHMAN AR-RAHEEM;SUBHAANAHU WA TAAALAA;AZZA WA JALL
   FE00|vb SELECTOR-|1;2;3;4;5;6;7;8;9;10;11;12;13;14;15;16
   FE10|PRESENTATION f fo ve |cm;ie cm;ie fu so;cd;ee;ex k;qe k;e z LENTICULAR bc;r z LENTICULAR BRAKCET;hr iy
   FE20|co |lg ;d tl ;mc |e ha;r ha
   FE26|co CONJOINING mc|
   FE27|co |lg ;tl ;mc |e ha g;r ha g
   FE2D|co |CONJOINING mc g;cy TITLO e ha;cy TITLO r ha
   FE30|PRESENTATION f fo ve |t i LEADER;EM df;EN df;lw lb;WAVY lw lb
   FE35/PRESENTATION f fo ve |e;r| |pa;cq bc;ef af bc;p LENTICULAR bc;d an bc;an bc;cf bc;z cf bc
   FE45||SESAME i;z SESAME i
   FE47|PRESENTATION f fo ve |e sq bc;r sq bc
   FE49||eb on;CENTRELINE on;WAVY on;d WAVY on;eb lw lb;CENTRELINE lw lb;WAVY lw lb;m cm;m ie cm;m fu so
   FE54|m |ee;cd;qe k;ex k;EM df
   FE59/m |e;r| |pa;cq bc;ef af bc
   FE5F|m |nu s;ih;at;pl s;HYPHEN-MINUS;ls s;ge s;eu s
   FE68|m |rv sw;DOLLAR s;PERCENT s;COMMERCIAL AT
   FE70|q |FATHATAN is f;TATWEEL w FATHATAN b;DAMMATAN is f;tc FRAGMENT;KASRATAN is f
   FE76|q |FATHA ;DAMMA ;KASRA ;SHADDA ;SUKUN |is f;ml f
   FE80|q l hm is f|
   FE81|q l |al w MADDA b ;al w hm b ;WAW w hm b ;al w hm g |is f;x f
   FE89|q l ye w hm b |is f;x f;in f;ml f
   FE8D|q l |al ;BEH |is f;x f
   FE91|q l BEH |in f;ml f
   FE93|q l TEH MARBUTA |is f;x f
   FE95|q l |TEH ;THEH ;je ;hh ;ka |is f;x f;in f;ml f
   FEA9|q l |DAL ;THAL ;REH ;ZAIN |is f;x f
   FEB1|q l |sf ;sz ;SAD ;DAD ;TAH ;ZAH ;AIN ;gi ;FEH ;QAF ;KAF ;lm ;me ;nb ;HEH |is f;x f;in f;ml f
   FEED|q l |WAW ;al mk ;ye |is f;x f
   FEF3|q l ye |in f;ml f
   FEF5|q lg lm w al |w MADDA b ;w hm b ;w hm g ;|is f;x f
   FEFF|ze WIDTH NO-BREAK ab|
   FF01|jc |ex k;qo k;nu s;DOLLAR s;PERCENT s;ih;gq;e pa;r pa;at;pl s;cm;HYPHEN-MINUS;fu so;sw
   FF10|jc di |ze;o;t;h;u;fi;si;se;ei;ni
   FF1A|jc |cd;ee;ls s;eu s;ge s;qe k;COMMERCIAL AT
   FF21|jc v c l |A;B;C;D;E;F;G;H;I;J;K;L;M;N;O;P;Q;R;S;T;U;V;W;X;Y;Z
   FF3B|jc |e sq bc;rv sw;r sq bc;cc ae;lw lb;ga ae
   FF41|jc v m l |A;B;C;D;E;F;G;H;I;J;K;L;M;N;O;P;Q;R;S;T;U;V;W;X;Y;Z
   FF5B|jc |e cq bc;ve lb;r cq bc;tl;e z pa;r z pa
   FF61|hf |ie fu so;e cf bc;r cf bc;ie cm;kt mi i;kt l WO
   FF67|hf kt l m |A;I;U;E;O;YA;YU;YO;TU
   FF70|hf kk PROLONGED bu k|
   FF71|hf kt l |;K;S;T;N;H;M|A;I;U;E;O
   FF94|hf kt l |YA;YU;YO;RA;RI;RU;RE;RO;WA;N
   FF9E|hf |kt VOICED bu k;kt SEMI-VOICED bu k;hl FILLER
   FFA1|hf hl l |ki;SSANGKIYEOK;KIYEOK-SIOS;NIEUN;NIEUN-CIEUC;NIEUN-HIEUH;fj;SSANGTIKEUT;RIEUL
   FFAA|hf hl l RIEUL-|KIYEOK;MIEUM;PIEUP;SIOS;THIEUTH;PHIEUPH;HIEUH
   FFB1|hf hl l |MIEUM;PIEUP;jz;PIEUP-SIOS;SIOS;ji;IEUNG;CIEUC;SSANGCIEUC;eo;ke;gf;pp;HIEUH
   FFC2|hf hl l |A;AE;YA;YAE;EO;E
   FFCA|hf hl l |YEO;YE;O;WA;WAE;OE
   FFD2|hf hl l |YO;U;WEO;WE;WI;YU
   FFDA|hf hl l |EU;YI;I
   FFE0|jc |CENT s;POUND s;nt s;mc;BROKEN ba;YEN s;WON s
   FFE8|hf |FORMS li ve;le a;uw a;ri a;dw a;p sq;z ci
   FFF9|INTERLINEAR ANNOTATION |ANCHOR;sp;TERMINATOR
   FFFC||OBJECT REPLACEMENT gv;REPLACEMENT gv"

end FloScript.Text.CharName
