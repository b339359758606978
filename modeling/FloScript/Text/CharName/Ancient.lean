/-! Names of characters from 10000 to 15FFF: ancient scripts. -/
namespace FloScript.Text.CharName

/-- Rows of a table of abbreviated names. -/
def ancient : String :=
  "10000|lr B sy B0|08 A;38 E;28 I;61 O;10 U;01 DA;45 DE;07 DI;14 DO;51 DU;57 JA;46 JE
   1000D|lr B sy B0|36 JO;65 JU;77 KA;44 KE;67 KI;70 KO;81 KU;80 MA;13 ME;73 MI;15 MO;23 MU;06 NA;24 NE;30 NI;52 NO;
     55 NU;03 PA;72 PE;39 PI;11 PO;50 PU;16 QA;78 QE;21 QI;32 QO
   10028|lr B sy B0|60 RA;27 RE;53 RI;02 RO;26 RU;31 SA;09 SE;41 SI;12 SO;58 SU;59 TA;04 TE;37 TI;05 TO;69 TU;54 WA;
     75 WE;40 WI;42 WO
   1003C|lr B sy B0|17 ZA;74 ZE
   1003F|lr B sy B0|20 ZO;25 A2;43 A3;85 AU;71 DWE;90 DWO;48 NWA;29 PU2;62 PTE;76 RA2;33 RA3;68 RO2;66 TA2;87 TWE;
     91 t
   10050|lr B y B0|18;19;22;34;47;49;56;63;64;79;82;83;86;89
   10080|lr B IDEOGRAM B1|00 MAN;02 WOMAN;04 DEER;05 EQUID;05F MARE;05M STALLION;06F EWE;06M RAM;07F SHE-GOAT;
     07M HE-GOAT;08F SOW;08M BOAR;09F COW;09M BULL;20 WHEAT;21 BARLEY;22 OLIVE;23 SPICE;25 CYPERUS
   10093|lr B MONOGRAM B12|7 KAPO;8 KANAKO
   10095|lr B IDEOGRAM B13|0 OIL;1 WINE;2
   10098|lr B MONOGRAM B13|3 AREPA;5 MERI
   1009A|lr B IDEOGRAM B1|40 BRONZE;41 GOLD;42;45 WOOL;46;50;51 HORN;52;53;54
   100A4|lr B MONOGRAM B156 TURO2|
   100A5|lr B IDEOGRAM B1|57;58;59 CLOTH;60;61;62 GARMENT;63 ARMOUR;64;65;66;67;68;69;70;71;72;73 MONTH;74;76 TREE;
     77;78;79;80;81;82;83;84;85;89;90;91 HELMET
   100C4|lr B IDEOGRAM B2|20 FOOTSTOOL;25 BATHTUB;30 SPEAR;31 a;32;33 SWORD;34;36;40 WHEELED CHARIOT;41 CHARIOT;
     42 CHARIOT FRAME;43 WHEEL;45;46
   100D2|lr B MONOGRAM B247 DIPTE|
   100D3|lr B IDEOGRAM B2|48;49;51;52;53;54 DART;55;56;57;58;59
   100DE|lr B IDEOGRAM VESSEL B|155;200;201;202;203;204;205;206;207;208;209;210;211;212;213;214;215;216;217;218;219;
     221;222;226;227;228;229;250;305
   10100|AEGEAN |WORD sp lb;WORD sp i;CHECK k
   10107|AEGEAN nu |o;t;h;u;fi;si;se;ei;ni;te;tw;ty;ft;ff;aw;sv;ey;ne;o hu;t hu;h hu;u hu;fi hu;si hu;se hu;ei hu;
     ni hu;o th;t th;h th;u th;fi th;si th;se th;ei th;ni th;te th;tw th;ty th;ft th;ff th;aw th;sv th;ey th;ne th
   10137|AEGEAN WEIGHT |BASE UNIT;FIRST SUBUNIT;SECOND SUBUNIT;THIRD SUBUNIT;FOURTH SUBUNIT
   1013C|AEGEAN |DRY MEASURE FIRST SUBUNIT;LIQUID MEASURE FIRST SUBUNIT;MEASURE SECOND SUBUNIT;MEASURE THIRD SUBUNIT
   10140|gr ACROPHONIC ATTIC |o qu;o ha;o DRACHMA;fi;ff;fi hu;fi th;ff th;fi TALENTS;te TALENTS;ff TALENTS;
     o hu TALENTS;fi hu TALENTS;o th TALENTS;fi th TALENTS;fi STATERS;te STATERS;ff STATERS;o hu STATERS;
     fi hu STATERS;o th STATERS;te th STATERS;ff th STATERS;te MNAS
   10158|gr ACROPHONIC |HERAEUM o PLETHRON;gd o;HERMIONIAN o;EPIDAUREAN t;gd t;CYRENAIC t DRACHMAS;
     EPIDAUREAN t DRACHMAS;kb fi;kb te;kb te aa f;HERMIONIAN te;MESSENIAN te;gd te;gd ty;kb ff;kb ff aa f;
     HERMIONIAN ff;gd ff;gd o hu;gd h hu;EPIDAUREAN fi hu;kb fi hu;gd fi hu;CARYSTIAN fi hu;NAXIAN fi hu;gd o th;
     gd fi th;DELPHIC fi MNAS;STRATIAN ff MNAS
   10175|gr |o ha s;o ha s aa f;t THIRDS s;h qr s;YEAR s;TALENT s;DRACHMA s;OBOL s;t OBOLS s;h OBOLS s;u OBOLS s;
     fi OBOLS s;METRETES s;KYATHOS BASE s;LITRA s;OUNKIA s;XESTES s;ARTABE s;AROURA s;GRAMMA s;TRYBLION BASE s;ze s;
     o qu s;SINUSOID s;INDICTION s
   1018E|NOMISMA s|
   10190|ROMAN |SEXTANS s;UNCIA s;SEMUNCIA s;SEXTULA s;DIMIDIA SEXTULA s;SILIQUA s;DENARIUS s;QUINARIUS s;
     SESTERTIUS s;DUPONDIUS s;AS s;CENTURIAL s
   1019C|ASCIA y|
   101A0|gr y TAU RHO|
   101D0|PHAISTOS DISC s |PEDESTRIAN;PLUMED HEAD;TATTOOED HEAD;CAPTIVE;CHILD;WOMAN;HELMET;GAUNTLET;TIARA;a;BOW;
     SHIELD;CLUB;MANACLES;MATTOCK;SAW;LID;BOOMERANG;CARPENTRY PLANE;DOLIUM;COMB;SLING;COLUMN;BEEHIVE;SHIP;HORN;HIDE;
     BULLS LEG;CAT;RAM;EAGLE;DOVE;TUNNY;BEE;PLANE TREE;VINE;PAPYRUS;ROSETTE;LILY;OX BACK;FLUTE;GRATER;STRAINER;m AXE;
     WAVY BAND;co oq st
   10280|LYCIAN l |A;E;B;BH;G;D;I;W;Z;TH;J;K;Q;L;M;N;MM;NN;U;P;KK;R;S;T;TT;AN;EN;H;X
   102A0|CARIAN l |A;P2;D;L;UUU;R;LD;A2;Q;B;M;O;D2;T;SH;SH2;S;C-18;U;NN;X;N;TT2;P;SS;I;E;UUUU;K;K2;ND;UU;G;G2;ST;
     ST2;NG;II;C-39;TT;UUU2;RR;MB;MB2;MB3;MB4;LD2;E2;UUU3
   102E0|cx EPACT jk k|
   102E1|cx EPACT di |o;t;h;u;fi;si;se;ei;ni
   102EA|cx EPACT nu |te;tw;ty;ft;ff;aw;sv;ey;ne;o hu;t hu;h hu;u hu;fi hu;si hu;se hu;ei hu;ni hu
   10300|ol ia l |A;BE;KE;DE;E;VE;ZE;HE;tf;I;KA;EL;EM;EN;ESH;O;PE;SHE;KU;ER;ES;TE;U;EKS;PHE;KHE;EF;ERS;CHE;II;UU;ESS
   10320|ol ia nl |o;fi;te;ff
   1032D|ol ia l |YE;NORTHERN TSE;SOUTHERN TSE
   10330|GOTHIC l |AHSA;BAIRKAN;GIBA;DAGS;AIHVUS;QAIRTHRA;IUJA;HAGL;THIUTH;EIS;KUSMA;LAGUS;MANNA;NAUTHS;JER;URUS;
     PAIRTHRA;ne;RAIDA;SAUIL;TEIWS;WINJA;FAIHU;IGGWS;HWAIR;OTHAL;ni hu
   10350|ol PERMIC l |AN;BUR;GAI;DOI;E;ZHOI;DZHOI;ZATA;DZITA;I;KOKE;LEI;MENOE;NENOE;VOOI;PEEI;REI;SII;TAI;U;CHERY;
     SHOOI;SHCHOOI;YRY;YERU;O;OO;EF;HA;TSIU;VER;YER;YERI;YAT;IE;YU;YA;IA
   10376|co ol PERMIC l |AN;DOI;ZATA;NENOE;SII
   10380|UGARITIC l |ALPA;BETA;GAMLA;kh;DELTA;HO;WO;ZETA;HOTA;TET;YOD;KAF;sk;LAMDA;MEM;DHAL;nn;ZU;SAMKA;AIN;PU;SADE;
     QOPA;RASHA;THANNA;gi;TO;I;U;SSU
   1039F|UGARITIC WORD DIVIDER|
   103A0|ol PERSIAN s |A;I;U;KA;KU;GA;GU;XA;CA;JA;JI;TA;TU;DA;DI;DU;tb;PA;BA;FA;NA;NU;MA;MI;MU;YA;VA;VI;RA;RU;LA;SA;
     ZA;sh;SSA;HA
   103C8|ol PERSIAN s AURAMAZDAA|;-2;HA
   103CB|ol PERSIAN |s XSHAAYATHIYA;s DAHYAAUSH;s DAHYAAUSH-2;s BAGA;s BUUMISH;WORD DIVIDER;nu o;nu t;nu te;nu tw;
     nu hu
   10400|DESERET |c l ;m l |ln I;ln E;ln A;ln AH;ln O;ln OO;sr I;sr E;sr A;sr AH;sr O;sr OO;AY;OW;WU;YEE;H;PEE;BEE;
     TEE;DEE;CHEE;JEE;KAY;GAY;EF;VEE;ETH;THEE;ES;ZEE;ESH;ZHEE;ER;EL;EM;EN;ENG;OI;EW
   10450|SHAVIAN l |PEEP;TOT;KICK;FEE;THIGH;SO;SURE;CHURCH;YEA;HUNG;BIB;DEAD;GAG;VOW;THEY;ZOO;MEASURE;JUDGE;WOE;
     HA-HA;LOLL;MIME;IF;EGG;as;ADO;ON;WOOL;OUT;AH;ROAR;nn;EAT;AGE;ICE;UP;OAK;OOZE;OIL;AWE;ARE;OR;AIR;ERR;ARRAY;EAR;
     IAN;YEW
   10480|OSMANYA l |al;BA;TA;JA;XA;kh;DEEL;RA;SA;SHIIN;dh;CAYN;GA;FA;QAAF;KAAF;LAAN;MIIN;NUUN;WAW;HA;YA;A;E;I;O;U;
     AA;EE;OO
   104A0|OSMANYA di |ze;o;t;h;u;fi;si;se;ei;ni
   104B0|OSAGE c l |A;AI;AIN;AH;BRA;ch;EHCHA;E;EIN;HA;HYA;I;KA;EHKA;KYA;LA;MA;NA;O;OIN;PA;EHPA;SA;sh;TA;EHTA;TSA;
     EHTSA;TSHA;dh;U;WA;kh;gh;ZA;ZHA
   104D8|OSAGE m l |A;AI;AIN;AH;BRA;ch;EHCHA;E;EIN;HA;HYA;I;KA;EHKA;KYA;LA;MA;NA;O;OIN;PA;EHPA;SA;sh;TA;EHTA;TSA;
     EHTSA;TSHA;dh;U;WA;kh;gh;ZA;ZHA
   10500|ELBASAN l |A;BE;CE;CHE;DE;NDE;DHE;EI;E;FE;GE;GJE;HE;I;JE;KE;LE;LLE;ME;NE;NA;NJE;O;PE;QE;RE;RRE;SE;SHE;TE;
     tf;U;VE;XE;Y;ZE;ZHE;GHE;GHAMMA;KHE
   10530|CAUCASIAN ALBANIAN l |ALT;BET;GIM;DAT;EB;ZARL;EYN;ZHIL;TAS;ch;YOWD;ZHA;IRB;sh;LAN;INYA;XEYN;DYAN;CAR;JHOX;
     KAR;LYIT;HEYT;QAY;AOR;CHOY;CHI;CYAY;MAQ;QAR;NOWC;DZYAY;SHAK;JAYN;ON;TYAY;FAM;DZAY;CHAT;PEN;GHEYS;RAT;SEYK;VEYZ;
     TIWR;SHOY;IWN;CYAW;CAYN;YAYD;PIWR;KIW
   1056F|CAUCASIAN ALBANIAN CITATION k|
   10570|vh c l |A;BBE;BE;CE;CHE;DE;DHE;EI;E;FE;GA
   1057C|vh c l |HA;HHA;I;IJE;JE;KA;LA;LLA;ME;NE;NJE;O;PE;QA;RE
   1058C|vh c l |SE;SHE;TE;tf;U;VE;XE
   10594|vh c l |Y;ZE
   10597|vh m l |A;BBE;BE;CE;CHE;DE;DHE;EI;E;FE;GA
   105A3|vh m l |HA;HHA;I;IJE;JE;KA;LA;LLA;ME;NE;NJE;O;PE;QA;RE
   105B3|vh m l |SE;SHE;TE;tf;U;VE;XE
   105BB|vh m l |Y;ZE
   10600|lr A s AB0|01;02;03;04;05;06;07;08;09;10;11;13;16;17;20;21;21F;21M;22;22F;22M;23;23M;24;26;27;28
   1061B|lr A s A028B|
   1061C|lr A s AB0|29;30;31;34;37;38;39;40;41;44;45;46;47;48;49;50;51;53;54;55;56;57;58;59;60;61;65;66;67;69;70;73;
     74;76;77;78;79;80;81;82;85;86;87
   10647|lr A s A|100-102;B118;B120;120B;B122;B123;B131A;B131B;131C;B164;B171;B180;B188;B191
   10655|lr A s A30|1;2;3;4;5;6;7;8;9A;9B;9C
   10660|lr A s A31|0;1;2;3A;3B;3C;4;5;6;7;8;9
   1066C|lr A s A3|2;3;4;5;6|0;1;2;3;4;5;6;7;8;9
   1069E|lr A s A37|0;1
   106A0|lr A s A40|0-VAS;1-VAS;2-VAS;3-VAS;4-VAS;5-VAS;6-VAS;7-VAS;8-VAS;9-VAS
   106AA|lr A s A41|0-VAS;1-VAS;2-VAS;3-VAS;4-VAS;5-VAS;6-VAS;7-VAS;8-VAS
   106B3|lr A s A5|01;02;03;04;05;06;08;09;10;11;12;13;15;16;20;21;23;24;25;26;27;28;29;30;31;32;34;35;36;37;38;39;
     40;41;42;45;47;48;49;50;51;52;53;54;55;56;57;59;63;64;65;66;68;69
   106E9|lr A s A5|7;8|0;1;2;3;4;5;6;7;8;9
   106FD|lr A s A59|1;2;4;5;6;8
   10703|lr A s A6|00;01;02;03;04;06;08;09;10;11;12;13;14;15;16;17;18;19;20;21;22;23;24;26;27;28;29;34;37;38;40;42;
     43;44;45;46;48;49;51;52;53;54;55;56;57;58;59;60;61;62;63;64
   10740|lr A s A7|01 A;02 B;03 D;04 E;05 F;06 H;07 J;08 K;09 L;09-2 L2;09-3 L3;09-4 L4;09-6 L6;10 W;11 X;12 Y;
     13 om;14 ABB;15 BB;17 DD;26 EYYY;32 JE
   10760|lr A s A80|0;1;2;3;4;5;6;7
   10780|mo l |m c AA;ed tq cd;ed ha tq cd;m AE;m c B;m B w ho
   10787|mo l m |DZ dg;DZ dg w rt ho;DZ dg w cp;DEZH dg;D w tc;D w ho;D w ho n tc;re E;cl re op E;FENG dg;RAMS HORN;
     c G;G w ho;c G w ho;H w st;c H;HENG w ho;dp J w st n ho;LS dg;LZ dg;L w BELT;c L w BELT;L w rt ho n BELT;LEZH;
     LEZH w rt ho;tr Y;tr Y w BELT;O w st;c OE;cl om;Q;tr R w ln LEG;tr R w ln LEG n rt ho;R w tc;R w FISHHOOK;c R;
     TC dg w cp;TS dg;TS dg w rt ho;TESH dg;T w rt ho;V w r ho
   107B2|mo l |m c Y;gl so w st;re gl so w st;BILABIAL CLICK;DENTAL CLICK;LATERAL CLICK;ALVEOLAR CLICK;
     rt CLICK w rt ho;m S w cp
   10800|CYPRIOT sy |A;E;I;O;U;JA
   10808|CYPRIOT sy JO|
   1080A|CYPRIOT sy |K;L;M;N;P;R;S;T|A;E;I;O;U
   10832|CYPRIOT sy W|A;E;I;O
   10837|CYPRIOT sy X|A;E
   1083C|CYPRIOT sy ZA|
   1083F|CYPRIOT sy ZO|
   10840|IMPERIAL ARAMAIC l |am;BETH;gb;DALETH;HE;WAW;za;HETH;TETH;YODH;KAPH;ld;MEM;nn;bb;AYIN;PE;az;QOPH;RESH;sk;TAW
   10857|IMPERIAL ARAMAIC |sj s;nu o;nu t;nu h;nu te;nu tw;nu o hu;nu o th;nu te th
   10860|PALMYRENE l |am;BETH;gb;DALETH;HE;WAW;za;HETH;TETH;YODH;KAPH;ld;MEM;x nn;nn;bb;AYIN;PE;az;QOPH;RESH;sk;TAW
   10877|PALMYRENE |lf FLEURON;rg FLEURON
   10879|PALMYRENE nu |o;t;h;u;fi;te;tw
   10880|NABATAEAN l |x am;am;x BETH;BETH;gb;DALETH;x HE;HE;WAW;za;HETH;TETH;x YODH;YODH;x KAPH;KAPH;x ld;ld;x MEM;
     MEM;x nn;nn;bb;AYIN;PE;az;QOPH;RESH;x sk;sk;TAW
   108A7|NABATAEAN |nu o;nu t;nu h;nu u;CRUCIFORM nu u;nu fi;nu te;nu tw;nu o hu
   108E0|HATRAN l |am;BETH;gb;DALETH-RESH;HE;WAW;ZAYN;HETH;TETH;YODH;KAPH;ld;MEM;nn;bb;AYN;PE;az;QOPH
   108F4|HATRAN l |sk;TAW
   108FB|HATRAN nu |o;fi;te;tw;o hu
   10900|PHOENICIAN l |ALF;BET;GAML;DELT;HE;WAU;ZAI;HET;TET;YOD;KAF;LAMD;MEM;nn;SEMK;AIN;PE;SADE;QOF;ROSH;sk;TAU
   10916|PHOENICIAN nu |o;te;tw;o hu;t;h
   1091F|PHOENICIAN WORD sp|
   10920|LYDIAN l |A;B;G;D;E;V;I;Y;K;L;M;N;O;R;SS;T;U;F;Q;S;TT;AN;EN;LY;NN;C
   1093F|LYDIAN tq k|
   10980|MEROITIC HIEROGLYPHIC l |A;E;I;O;YA;WA;BA;BA-2;PA;MA;NA;NA-2;NE;NE-2;RA;RA-2;LA;kh;HHA;SA;SA-2;SE;KA;QA;TA;
     TA-2;TE;TE-2;TO;DA
   1099E|MEROITIC HIEROGLYPHIC y VIDJ|;-2
   109A0|MEROITIC CURSIVE l |A;E;I;O;YA;WA;BA;PA;MA;NA;NE;RA;LA;kh;HHA;SA;ah SA;SE;KA;QA;TA;TE;TO;DA
   109BC|MEROITIC CURSIVE |fc ELEVEN gk;fc o ha;LOGOGRAM RMT;LOGOGRAM IMN
   109C0|MEROITIC CURSIVE nu |o;t;h;u;fi;si;se;ei;ni;te;tw;ty;ft;ff;aw;sv
   109D2|MEROITIC CURSIVE nu |o hu;t hu;h hu;u hu;fi hu;si hu;se hu;ei hu;ni hu;o th;t th;h th;u th;fi th;si th;
     se th;ei th;ni th;te th;tw th;ty th;ft th;ff th;aw th;sv th;ey th;ne th;o hu th;t hu th;h hu th;u hu th;fi hu th;
     si hu th;se hu th;ei hu th;ni hu th
   109F6|MEROITIC CURSIVE fc |o TWELFTH;t gk;h gk;u gk;fi gk;si gk;se gk;ei gk;ni gk;te gk
   10A00|ko |l A;vo s I;vo s U;vo s vc R
   10A05|ko vo s |E;O
   10A0C|ko |vo lh k;s d rn g;s au;s vs;l KA;l kh;l GA;l gh
   10A15|ko l |CA;ch;JA
   10A19|ko l |ny;tt;td;dd;db;na;TA;tb;DA;dh;NA;PA;ph;BA;bh;MA;YA;RA;LA;VA;sh;SSA;SA;ZA;HA;KKA;TTTHA;TTTA;VHA
   10A38|ko s |ba b;CAUDA;i g
   10A3F|ko |vi;di o;di t;di h;di u;nu te;nu tw;nu o hu;nu o th;fc o ha
   10A50|ko pu |i;m ci;ci;CRESCENT ba;MANGALAM;LOTUS;dn;d dn;LINES
   10A60|ol su ARABIAN l |HE;ld;HETH;MEM;QOPH;WAW;sk;RESH;BETH;TAW;SAT;KAPH;nn;KHETH;az;bb;FE;al;AYN;DHADHE;gb;
     DALETH;GHAYN;TETH;ZAYN;DHALETH;YODH;THAW;THETH
   10A7D|ol su ARABIAN |nu o;nu ff;NUMERIC jg
   10A80|ol no ARABIAN l |HEH;lm;hh;me;QAF;WAW;ES-2;REH;BEH;TEH;ES-1;KAF;nb;ka;SAD;ES-3;FEH;al;AIN;DAD;GEEM;DAL;gi;
     TAH;ZAIN;THAL;ye;THEH;ZAH
   10A9D|ol no ARABIAN nu |o;te;tw
   10AC0|mf l |am;BETH;BHETH;gb;GHIMEL;DALETH;HE;WAW
   10AC8|mf s UD|
   10AC9|mf l |za;ZHAYIN;JAYIN;JHAYIN;HETH;TETH;YODH;KAPH;XAPH;KHAPH;ld;DHAMEDH;THAMEDH;MEM;nn;bb;AYIN;AAYIN;PE;FE;
     az;QOPH;XOPH;QHOPH;RESH;sk;SSHIN;TAW
   10AE5|mf av k |b;g
   10AEB|mf nu |o;fi;te;tw;o hu
   10AF0|mf pu |sa;FLEURON;d i WITHIN i;i WITHIN i;i;t dt;lb FILLER
   10B00|AVESTAN l |A;AA;AO;AAO;AN;AAN;AE;AEE;E;EE;O;OO;I;II;U;UU;KE;XE;XYE;XVE;GE;GGE;GHE;CE;JE;TE;tf;DE;DHE;TTE;
     PE;FE;BE;BHE;NGE;NGYE;NGVE;NE;NYE;NNE;ME;HME;YYE;YE;VE;RE;LE;SE;ZE;SHE;ZHE;SHYE;SSHE;HE
   10B39||AVESTAN av k;TINY t dt ov o i pu;m t dt ov o i pu
   10B3C|la |t dt ov o i pu;o i ov t dt pu;t RINGS ov o rn pu;o rn ov t RINGS pu
   10B40|INSCRIPTIONAL PARTHIAN l |am;BETH;gb;DALETH;HE;WAW;za;HETH;TETH;YODH;KAPH;ld;MEM;nn;bb;AYIN;PE;az;QOPH;
     RESH;sk;TAW
   10B58|INSCRIPTIONAL PARTHIAN nu |o;t;h;u;te;tw;o hu;o th
   10B60|INSCRIPTIONAL PAHLAVI l |am;BETH;gb;DALETH;HE;WAW-AYIN-RESH;za;HETH;TETH;YODH;KAPH;ld;MEM-QOPH;nn;bb;PE;az;
     sk;TAW
   10B78|INSCRIPTIONAL PAHLAVI nu |o;t;h;u;te;tw;o hu;o th
   10B80|PSALTER PAHLAVI l |am;BETH;gb;DALETH;HE;WAW-AYIN-RESH;za;HETH;YODH;KAPH;ld;MEM-QOPH;nn;bb;PE;az;sk;TAW
   10B99|PSALTER PAHLAVI |sj k;tr sj k;u dt w cs;u dt w i
   10BA9|PSALTER PAHLAVI nu |o;t;h;u;te;tw;o hu
   10C00|ol fk l |ok A;yn A;yn AE;ok I;yn I;yn E;ok O
   10C07/ol fk l |ok;yn| |OE;AB;AEB;AG;AEG;AD
   10C13|ol fk l ok AED|
   10C14/ol fk l |ok;yn| |EZ;AY;AEY;AEK;OEK;AL
   10C20|ol fk l ok |AEL;ELT;EM;AN
   10C24/ol fk l |ok;yn| |AEN;ENT;ENC;ENY
   10C2C|ol fk l |yn ANG;ok ENG;yn AENG;ok EP;ok OP;ok IC
   10C32/ol fk l |ok;yn| |EC;AQ;IQ;OQ;AR
   10C3C|ol fk l ok A|ER;S;ES
   10C3F/ol fk l |ok;yn| |as;ESH;AT;AET
   10C47|ol fk l ok |OT;BASH
   10C80|ol HUNGARIAN c l |A;AA;EB;AMB;EC;ENC;ECS;ED;n;E;CLOSE E;EE;EF;EG;EGY;EH;I;II;EJ;EK;AK;UNK;EL;ELY;EM;EN;ENY;
     O;OO;NIKOLSBURG OE;RUDIMENTA OE;OEE;EP;EMP;ER;sr ER;ES;ESZ;ET;ENT;ETY;ECH;U;UU;NIKOLSBURG UE;RUDIMENTA UE;EV;EZ;
     EZS;ENT-SHAPED s;US
   10CC0|ol HUNGARIAN m l |A;AA;EB;AMB;EC;ENC;ECS;ED;n;E;CLOSE E;EE;EF;EG;EGY;EH;I;II;EJ;EK;AK;UNK;EL;ELY;EM;EN;ENY;
     O;OO;NIKOLSBURG OE;RUDIMENTA OE;OEE;EP;EMP;ER;sr ER;ES;ESZ;ET;ENT;ETY;ECH;U;UU;NIKOLSBURG UE;RUDIMENTA UE;EV;EZ;
     EZS;ENT-SHAPED s;US
   10CFA|ol HUNGARIAN nu |o;fi;te;ff;o hu;o th
   10D00|HANIFI ROHINGYA l |A;BA;PA;TA;tt;JA;CA;HA;kh;FA;DA;dd;RA;RRA;ZA;SA;sh;KA;GA;LA;MA;NA;WA;KINNA WA;YA;
     KINNA YA;ng;ny;VA
   10D1D|HANIFI ROHINGYA |vo A;vo I;vo U;vo E;vo O;k SAKIN;k NA KHONNA;s HARBAHAY;s TAHALA;s TANA;s TASSI
   10D30|HANIFI ROHINGYA di |ze;o;t;h;u;fi;si;se;ei;ni
   10E60|RUMI di |o;t;h;u;fi;si;se;ei;ni
   10E69|RUMI nu |te;tw;ty;ft;ff;aw;sv;ey;ne;o hu;t hu;h hu;u hu;fi hu;si hu;se hu;ei hu;ni hu
   10E7B|RUMI fc |o ha;o qu;o THIRD;t THIRDS
   10E80|YEZIDI l |ELIF;BE;PE;PHE;tf;SE;CIM;CHIM;CHHIM;HHA;XA;DAL;ZAL;RA;RHA;ZA;JA;SIN;sk;SAD;DAD;TA;ZE;EYN;XHEYN;
     FA;VA;VA aa f;QAF;KAF;KHAF;GAF;lm;MIM;nn;UM;WAW;OW;EW;HAY;YOT;ET
   10EAB|YEZIDI |co hm k;co MADDA k;HYPHENATION k
   10EB0|YEZIDI l |lm w i b;YOT w cc b
   10F00|ol hx l |am;x am;BETH;x BETH;gb;HE;x HE;WAW;za;HETH;YODH;KAPH;ld;MEM;nn;x nn;x nn w ve tc;bb;AYIN;aa AYIN;
     PE;az;x az;x az w ve tc;RESH-AYIN-DALETH;sk;TAW;x TAW;x TAW w ve tc
   10F1D|ol hx nu |o;t;h;u;fi;te;tw;ty;o hu
   10F26|ol hx |fc o ha;lg AYIN-DALETH
   10F30|hx l |am;BETH;gb;HE;WAW;za;HETH;YODH;KAPH;ld;MEM;nn;bb;AYIN;PE;az;RESH-AYIN;sk;TAW;FETH;LESH
   10F45|hx jf sk|
   10F46|hx co |i g;t dt g;i b;t dt b;cv b;cv g;ho b;ho g;ln ho g;RESH g;st g
   10F51|hx nu |o;te;tw;o hu
   10F55|hx pu |t ve BARS;t ve BARS w dt;ci w i;t bp w dt;ha ci w i
   10F70|ol UYGHUR l |am;BETH;GIMEL-HETH;WAW;za;x HETH;YODH;KAPH;ld;MEM;nn;bb;PE;az;RESH;sk;TAW;LESH
   10F82|ol UYGHUR co |i ;t dt |b;g
   10F86|ol UYGHUR pu |ba;t BARS;t dt;u dt
   10FB0|CHORASMIAN l |am;m am;BETH;gb;DALETH;HE;WAW;CURLED WAW;za;HETH;YODH;KAPH;ld;MEM;nn;bb;AYIN;PE;RESH;sk;TAW
   10FC5|CHORASMIAN nu |o;t;h;u;te;tw;o hu
   10FE0|ELYMAIC l |am;BETH;gb;DALETH;HE;WAW;za;HETH;TETH;YODH;KAPH;ld;MEM;nn;bb;AYIN;PE;az;QOPH;RESH;sk;TAW
   10FF6|ELYMAIC lg ZAYIN-YODH|
   11000|em s |ca;au;vs;jy;ua
   11005|em l |A;AA;I;II;U;UU;vc R;vc RR;vc L;vc LL;E;AI;O;AU;KA;kh;GA;gh;ng;CA;ch;JA;JHA;ny;tt;td;dd;db;na;TA;tb;
     DA;dh;NA;PA;ph;BA;bh;MA;YA;RA;LA;VA;sh;SSA;SA;HA;LLA;ol tm LLLA;ol tm RRA;ol tm NNNA
   11038|em vo s |AA;BHATTIPROLU AA;I;II;U;UU;vc R;vc RR;vc L;vc LL;E;AI;O;AU
   11046|em |vi;dn;d dn
   11049|em pu |i;d i;lb;CRESCENT ba;LOTUS
   11052|em nu |o;t;h;u;fi;si;se;ei;ni;te;tw;ty;ft;ff;aw;sv;ey;ne;o hu;o th
   11066|em di |ze;o;t;h;u;fi;si;se;ei;ni
   11070|em s ol tm vi|
   11071|em |l ol tm sr ;vo s ol tm sr |E;O
   11075|em l ol tm LLA|
   1107F|em nu JOINER|
   11080|KAITHI s |ca;au;vs
   11083|KAITHI l |A;AA;I;II;U;UU;E;AI;O;AU;KA;kh;GA;gh;ng;CA;ch;JA;JHA;ny;tt;td;dd;DDDHA;db;RHA;na;TA;tb;DA;dh;NA;
     PA;ph;BA;bh;MA;YA;RA;LA;VA;sh;SSA;SA;HA
   110B0|KAITHI vo s |AA;I;II;U;UU;E;AI;O;AU
   110B9|KAITHI |s vi;s nk;av s;ENUMERATION s;nu s;sj k;d sj k;dn;d dn;vo s vc R
   110CD|KAITHI nu s b|
   110D0|SORA SOMPENG l |SAH;TAH;BAH;CAH;DAH;GAH;MAH;NGAH;LAH;NAH;VAH;PAH;YAH;RAH;hh;KAH;JAH;NYAH;AH;EEH;IH;UH;OH;
     EH;MAE
   110F0|SORA SOMPENG di |ze;o;t;h;u;fi;si;se;ei;ni
   11100|CHAKMA s |ca;au;vs
   11103|CHAKMA l |AA;I;U;E;KAA;KHAA;GAA;GHAA;NGAA;CAA;CHAA;JAA;JHAA;NYAA;TTAA;TTHAA;DDAA;DDHAA;NNAA;TAA;THAA;DAA;
     DHAA;NAA;PAA;PHAA;BAA;BHAA;MAA;YYAA;YAA;RAA;LAA;WAA;SAA;HAA
   11127|CHAKMA vo s |A;I;II;U;UU;E;AI;O;AU;OI
   11131|CHAKMA |O k;AU k;vi;MAAYYAA
   11136|CHAKMA di |ze;o;t;h;u;fi;si;se;ei;ni
   11140|CHAKMA |sj k;dn;d dn;qe k;l LHAA;vo s AA;vo s EI;l VAA
   11150|MAHAJANI l |A;I;U;E;O;KA;kh;GA;gh;CA;ch;JA;JHA;ny;tt;td;dd;db;na;TA;tb;DA;dh;NA;PA;ph;BA;bh;MA;RA;LA;VA;SA;
     HA;RRA
   11173|MAHAJANI |s nk;av s;sj k;lg SHRI
   11180|SHARADA s |ca;au;vs
   11183|SHARADA l |A;AA;I;II;U;UU;vc R;vc RR;vc L;vc LL;E;AI;O;AU;KA;kh;GA;gh;ng;CA;ch;JA;JHA;ny;tt;td;dd;db;na;TA;
     tb;DA;dh;NA;PA;ph;BA;bh;MA;YA;RA;LA;LLA;VA;sh;SSA;SA;HA
   111B3|SHARADA vo s |AA;I;II;U;UU;vc R;vc RR;vc L;vc LL;E;AI;O;AU
   111C0|SHARADA |s vi;s ay;s jy;s ua;OM;dn;d dn;av s;sp;SANDHI k;s nk;vo mo k;EXTRA sr vo k;SUTRA k;
     vo s PRISHTHAMATRA E;s iv ca;di ze;di o;di t;di h;di u;di fi;di si;di se;di ei;di ni;EKAM;s ad;HEADSTROKE;
     CONTINUATION s;sj MARK-1;sj MARK-2
   111E1|bd ah di |o;t;h;u;fi;si;se;ei;ni
   111EA|bd ah nu |te;tw;ty;ft;ff;aw;sv;ey;ne;o hu;o th
   11200|KHOJKI l |A;AA;I;U;E;AI;O;AU;KA;kh;GA;GGA;gh;ng;CA;ch;JA;JJA
   11213|KHOJKI l |ny;tt;td;dd;db;na;TA;tb;DA;DDDA;dh;NA;PA;ph;BA;BBA;bh;MA;YA;RA;LA;VA;SA;HA;LLA
   1122C|KHOJKI vo s |AA;I;II;U;E;AI;O;AU
   11234|KHOJKI |s au;s vi;s nk;s SHADDA;dn;d dn;WORD sp;sj k;d sj k;av s;s SUKUN
   11280|MULTANI l |A;I;U;E;KA;kh;GA
   11288|MULTANI l gh|
   1128A|MULTANI l |CA;ch;JA;JJA
   1128F|MULTANI l |ny;tt;td;dd;DDDA;db;na;TA;tb;DA;dh;NA;PA;ph;BA
   1129F|MULTANI l |bh;MA;YA;RA;LA;VA;SA;HA;RRA;RHA
   112A9|MULTANI sj k|
   112B0|KHUDAWADI l |A;AA;I;II;U;UU;E;AI;O;AU;KA;kh;GA;GGA;gh;ng;CA;ch;JA;JJA;JHA;ny;tt;td;dd;DDDA;RRA;db;na;TA;tb;
     DA;dh;NA;PA;ph;BA;BBA;bh;MA;YA;RA;LA;VA;sh;SA;HA
   112DF|KHUDAWADI s au|
   112E0|KHUDAWADI vo s |AA;I;II;U;UU;E;AI;O;AU
   112E9|KHUDAWADI s |nk;vi
   112F0|KHUDAWADI di |ze;o;t;h;u;fi;si;se;ei;ni
   11300|gn s |co au b;ca;au;vs
   11305|gn l |A;AA;I;II;U;UU;vc R;vc L
   1130F|gn l |EE;AI
   11313|gn l |OO;AU;KA;kh;GA;gh;ng;CA;ch;JA;JHA;ny;tt;td;dd;db;na;TA;tb;DA;dh;NA
   1132A|gn l |PA;ph;BA;bh;MA;YA;RA
   11332|gn l L|A;LA
   11335|gn l |VA;sh;SSA;SA;HA
   1133B||co BINDU g;gn s nk;gn s ay
   1133E|gn vo s |AA;I;II;U;UU;vc R;vc RR
   11347|gn vo s |EE;AI
   1134B|gn |vo s OO;vo s AU;s vi
   11350|gn OM|
   11357|gn AU lh k|
   1135D|gn |s PLUTA;l VEDIC au;l VEDIC d au;l vc RR;l vc LL;vo s vc L;vo s vc LL
   11366|co gn di |ze;o;t;h;u;fi;si
   11370|co gn l |A;KA;NA;VI;PA
   11400|NEWA l |A;AA;I;II;U;UU;vc R;vc RR;vc L;vc LL;E;AI;O;AU;KA;kh;GA;gh;ng;NGHA;CA;ch;JA;JHA;ny;NYHA;tt;td;dd;
     db;na;TA;tb;DA;dh;NA;NHA;PA;ph;BA;bh;MA;MHA;YA;RA;RHA;LA;LHA;WA;sh;SSA;SA;HA
   11435|NEWA vo s |AA;I;II;U;UU;vc R;vc RR;vc L;vc LL;E;AI;O;AU
   11442|NEWA |s vi;s ca;s au;s vs;s nk;s ay;s x au;OM;SIDDHI;dn;d dn;cm;GAP FILLER;av s
   11450|NEWA di |ze;o;t;h;u;fi;si;se;ei;ni
   1145A|NEWA |d cm;PLACEHOLDER k
   1145D|NEWA |INSERTION s;SANDHI k;l VEDIC au;s jy;s ua
   11480|TIRHUTA ANJI|
   11481|TIRHUTA l |A;AA;I;II;U;UU;vc R;vc RR;vc L;vc LL;E;AI;O;AU;KA;kh;GA;gh;ng;CA;ch;JA;JHA;ny;tt;td;dd;db;na;TA;
     tb;DA;dh;NA;PA;ph;BA;bh;MA;YA;RA;LA;VA;sh;SSA;SA;HA
   114B0|TIRHUTA vo s |AA;I;II;U;UU;vc R;vc RR;vc L;vc LL;E;sr E;AI;O;sr O;AU
   114BF|TIRHUTA |s ca;s au;s vs;s vi;s nk;s ay;GVANG;av s;OM
   114D0|TIRHUTA di |ze;o;t;h;u;fi;si;se;ei;ni
   11580|ad l |A;AA;I;II;U;UU;vc R;vc RR;vc L;vc LL;E;AI;O;AU;KA;kh;GA;gh;ng;CA;ch;JA;JHA;ny;tt;td;dd;db;na;TA;tb;
     DA;dh;NA;PA;ph;BA;bh;MA;YA;RA;LA;VA;sh;SSA;SA;HA
   115AF|ad vo s |AA;I;II;U;UU;vc R;vc RR
   115B8|ad vo s |E;AI;O;AU
   115BC|ad |s ca;s au;s vs;s vi;s nk;s ad;dn;d dn;sp i;sp ba
   115C6|ad REPETITION MARK-|1;2;3
   115C9|ad END OF TEXT k|
   115CA|ad sj k w TRIDENT n |U-SHAPED ORNAMENTS;dc iq
   115CC|ad sj k w RAYS n dc |iq;d iq;tp iq
   115CF|ad sj k d rn|; w RAYS
   115D1|ad sj k w |d iq;tp iq;qp iq;SEPTUPLE iq;bp n RAYS;bp n t ENCLOSURES;bp n u ENCLOSURES
   115D8|ad l |THREE-CIRCLE aa I;TWO-CIRCLE aa I;TWO-CIRCLE aa II;aa U
   115DC|ad vo s aa U|;U
   11600|MODI l |A;AA;I;II;U;UU;vc R;vc RR;vc L;vc LL;E;AI;O;AU;KA;kh;GA;gh;ng;CA;ch;JA;JHA;ny;tt;td;dd;db;na;TA;tb;
     DA;dh;NA;PA;ph;BA;bh;MA;YA;RA;LA;VA;sh;SSA;SA;HA;LLA
   11630|MODI vo s |AA;I;II;U;UU;vc R;vc RR;vc L;vc LL;E;AI;O;AU
   1163D|MODI |s au;s vs;s vi;s ARDHACANDRA;dn;d dn;av s;s HUVA
   11650|MODI di |ze;o;t;h;u;fi;si;se;ei;ni
   11660|mg |BIRGA w or;ro BIRGA;d BIRGA w or;tp BIRGA w or;BIRGA w d or;ro BIRGA w or;ro BIRGA w d or;iv BIRGA;
     iv BIRGA w d or
   11669|mg SWIRL BIRGA|; w or; w d or
   1166C|mg tr SWIRL BIRGA w d or|
   11680|TAKRI l |A;AA;I;II;U;UU;E;AI;O;AU;KA;kh;GA;gh;ng;CA;ch;JA;JHA;ny;tt;td;dd;db;na;TA;tb;DA;dh;NA;PA;ph;BA;bh;
     MA;YA;RA;LA;VA;sh;SA;HA;RRA
   116AB|TAKRI s |au;vs
   116AD|TAKRI vo s |AA;I;II;U;UU;E;AI;O;AU
   116B6|TAKRI |s vi;s nk;l ah kh;av s
   116C0|TAKRI di |ze;o;t;h;u;fi;si;se;ei;ni
   11700|AHOM l |KA;kh;ng;NA;TA;aa TA;PA;ph;BA;MA;JA;ch;tb;RA;LA;SA;ny;HA;A;DA;dh;GA;aa GA;gh;bh;JHA;aa BA
   1171D|AHOM ct s ml |LA;RA;LIGATING RA
   11720|AHOM vo s |A;AA;I;II;U;UU;E;AW;O;AI;AM
   1172B|AHOM s KILLER|
   11730|AHOM di |ze;o;t;h;u;fi;si;se;ei;ni
   1173A|AHOM |nu te;nu tw;s m sj;s sj;s RULAI;y VI;l CA;l tt;l td;l dd;l db;l na;l LLA
   11800|DOGRA l |A;AA;I;II;U;UU;E;AI;O;AU;KA;kh;GA;gh;ng;CA;ch;JA;JHA;ny;tt;td;dd;db;na;TA;tb;DA;dh;NA;PA;ph;BA;bh;
     MA;YA;RA;LA;VA;sh;SSA;SA;HA;RRA
   1182C|DOGRA vo s |AA;I;II;U;UU;vc R;vc RR;E;AI;O;AU
   11837|DOGRA |s au;s vs;s vi;s nk;av s
   118A0|WARANG CITI |c l ;m l |NGAA;A;WI;YU;YA;YO;II;UU;E;O;ANG;GA;KO;ENY;YUJ;UC;ENN;ODD;TTE;NUNG;DA;AT;AM;BU;PU;
     HIYO;HOLO;HORR;HAR;SSUU;SII;VIYO
   118E0|WARANG CITI di |ze;o;t;h;u;fi;si;se;ei;ni
   118EA|WARANG CITI nu |te;tw;ty;ft;ff;aw;sv;ey;ne
   118FF|WARANG CITI OM|
   11900|DIVES AKURU l |A;AA;I;II;U;UU;E
   11909|DIVES AKURU l O|
   1190C|DIVES AKURU l |KA;kh;GA;gh;ng;CA;ch;JA
   11915|DIVES AKURU l |ny;tt
   11918|DIVES AKURU l |dd;db;na;TA;tb;DA;dh;NA;PA;ph;BA;bh;MA;YA;YYA;RA;LA;VA;sh;SSA;SA;HA;LLA;ZA
   11930|DIVES AKURU vo s |AA;I;II;U;UU;E
   11937|DIVES AKURU vo s |AI;O
   1193B|DIVES AKURU |s au;s ca;s HALANTA;vi;PREFIXED NASAL s;ml YA;in RA;ml RA;s nk;d dn;GAP FILLER;END OF TEXT k
   11950|DIVES AKURU di |ze;o;t;h;u;fi;si;se;ei;ni
   119A0|nj l |A;AA;I;II;U;UU;vc R;vc RR
   119AA|nj l |E;AI;O;AU;KA;kh;GA;gh;ng;CA;ch;JA;JHA;ny;tt;td;dd;db;na;TA;tb;DA;dh;NA;PA;ph;BA;bh;MA;YA;RA;LA;VA;sh;
     SSA;SA;HA;LLA;RRA
   119D1|nj vo s |AA;I;II;U;UU;vc R;vc RR
   119DA|nj vo s |E;AI;O;AU
   119DE|nj |s au;s vs;s vi;s ay;s ad;HEADSTROKE;vo s PRISHTHAMATRA E
   11A00|zb sq l A|
   11A01|zb sq vo |s I;s UE;s U;s E;s OE;s O;s AI;s AU;s re I;lh k
   11A0B|zb sq l |KA;kh;GA;gh;ng;CA;ch;JA;ny;tt;td;dd;db;na;TA;tb;DA;dh;NA;PA;ph;BA;bh;MA;TSA;TSHA;DZA;DZHA;ZHA;ZA;
     -A;YA;RA;LA;VA;sh;SSA;SA;HA;KSSA
   11A33|zb sq |x ct k;s vi;s ca;s ca w or;s bm w or;s au;s vs;CLUSTER-INITIAL l RA
   11A3B|zb sq CLUSTER-FINAL l |YA;RA;LA;VA
   11A3F|zb sq |in HEAD k;CLOSING HEAD k;k TSHEG;k SHAD;k d SHAD;k ln TSHEG;in DOUBLE-LINED HEAD k;
     CLOSING DOUBLE-LINED HEAD k;SUBJOINER
   11A50|fy l A|
   11A51|fy vo s |I;UE;U;E;O;OE;AI;AU;vc R;vc L
   11A5B|fy vo lh k|
   11A5C|fy l |KA;kh;GA;gh;ng;CA;ch;JA;JHA;ny;tt;td;dd;db;na;TA;tb;DA;dh;NA;PA;ph;BA;bh;MA;TSA;TSHA;DZA;ZHA;ZA;-A;
     YA;RA;LA;VA;sh;SSA;SA;HA;KSSA
   11A84|fy s |jy;ua
   11A86|fy CLUSTER-INITIAL l |RA;LA;sh;SA
   11A8A|fy x ct s |G;K;NG;D;N;B;M;R;L;SH;S;-A
   11A96|fy |s au;s vs;GEMINATION k;SUBJOINER;k TSHEG;k SHAD;k d SHAD;k PLUTA
   11A9E|fy HEAD k w mn n SUN| n tp FLAME; n FLAME;
   11AA1|fy TERMINAL MARK-|1;2
   11AB0|cg sl NATTILIK |H;SHR|I;II;O;OO;A;AA
   11ABC|cg sl SP|E;I;O;A
   11AC0|PAU CIN HAU l |PA;KA;LA;MA;DA;ZA;VA;ng;HA;GA;kh;SA;BA;CA;TA;tb;NA;ph;RA;FA;ch;A;E;I;O;U;UA;IA;x P;x K;x T;
     x M;x N;x L;x W;x NG;x Y
   11AE5|PAU CIN HAU |rs to ln;rs to;SANDHI gl so;rs to ln x;rs to x;SANDHI gl so x;SANDHI to ln;SANDHI to;
     SANDHI to ln x;SANDHI to x;MID-LEVEL to;gl so vn;MID-LEVEL to ln x;MID-LEVEL to x;LOW-FALLING to ln;
     LOW-FALLING to;gl so;LOW-FALLING to ln x;LOW-FALLING to x;gl so x
   11C00|fm l |A;AA;I;II;U;UU;vc R;vc RR;vc L
   11C0A|fm l |E;AI;O;AU;KA;kh;GA;gh;ng;CA;ch;JA;JHA;ny;tt;td;dd;db;na;TA;tb;DA;dh;NA;PA;ph;BA;bh;MA;YA;RA;LA;VA;sh;
     SSA;SA;HA
   11C2F|fm vo s |AA;I;II;U;UU;vc R;vc RR;vc L
   11C38|fm vo s |E;AI;O;AU
   11C3C|fm |s ca;s au;s vs;s vi;s ay;dn;d dn;WORD sp
   11C44|fm GAP FILLER-|1;2
   11C50|fm di ze|
   11C51|fm |di ;nu |o;t;h;u;fi;si;se;ei;ni
   11C63|fm nu |te;tw;ty;ft;ff;aw;sv;ey;ne
   11C6C|fm HUNDREDS UNIT k|
   11C70|MARCHEN |HEAD k;k SHAD
   11C72|MARCHEN l |KA;kh;GA;ng;CA;ch;JA;ny;TA;tb;DA;NA;PA;ph;BA;MA;TSA;TSHA;DZA;WA;ZHA;ZA;-A;YA;RA;LA;sh;SA;HA;A
   11C92|MARCHEN ig l |KA;kh;GA;ng;CA;ch;JA;ny;TA;tb;DA;NA;PA;ph;BA;MA;TSA;TSHA;DZA;WA;ZHA;ZA
   11CA9|MARCHEN ig l |YA;RA;LA;sh;SA;HA;A
   11CB0|MARCHEN vo s |AA;I;U;E;O
   11CB5|MARCHEN s |au;ca
   11D00|MASARAM go l |A;AA;I;II;U;UU;E
   11D08|MASARAM go l |AI;O
   11D0B|MASARAM go l |AU;KA;kh;GA;gh;ng;CA;ch;JA;JHA;ny;tt;td;dd;db;na;TA;tb;DA;dh;NA;PA;ph;BA;bh;MA;YA;RA;LA;VA;
     sh;SSA;SA;HA;LLA;KSSA;JNYA;TRA
   11D31|MASARAM go vo s |AA;I;II;U;UU;vc R
   11D3A|MASARAM go vo s E|
   11D3C|MASARAM go vo s |AI;O
   11D3F|MASARAM go |vo s AU;s au;s vs;s nk;s bm;s HALANTA;vi;REPHA;RA-KARA
   11D50|MASARAM go di |ze;o;t;h;u;fi;si;se;ei;ni
   11D60|GUNJALA go l |A;AA;I;II;U;UU
   11D67|GUNJALA go l |EE;AI
   11D6A|GUNJALA go l |OO;AU;YA;VA;BA;bh;MA;KA;kh;TA;tb;LA;GA;gh;DA;dh;NA;CA;ch;tt;td;LLA;JA;JHA;dd;db;ng;PA;ph;HA;
     RA;SA
   11D8A|GUNJALA go vo s |AA;I;II;U;UU
   11D90|GUNJALA go vo s |EE;AI
   11D93|GUNJALA go |vo s OO;vo s AU;s au;s vs;vi;OM
   11DA0|GUNJALA go di |ze;o;t;h;u;fi;si;se;ei;ni
   11EE0|MAKASAR l |KA;GA;ng;PA;BA;MA;TA;DA;NA;CA;JA;ny;YA;RA;LA;VA;SA;A
   11EF2|MAKASAR |ANGKA;vo s I;vo s U;vo s E;vo s O;PASSIMBANG;END OF sj
   11FB0|LISU l YHA|
   11FC0|tm fc |o THREE-HUNDRED-AND-TWENTIETH;o ONE-HUNDRED-AND-SIXTIETH;o EIGHTIETH;o SIXTY-FOURTH;o FORTIETH;
     o THIRTY-SECOND;h EIGHTIETHS;h SIXTY-FOURTHS;o TWENTIETH;o SIXTEENTH-1;o SIXTEENTH-2;o TENTH;o eh;h TWENTIETHS;
     h SIXTEENTHS;o FIFTH;o qu;o HALF-1;o HALF-2;h qr;DOWNSCALING FACTOR KIIZH
   11FD5|tm s |NEL;CEVITU;AAZHAAKKU;UZHAKKU;MUUVUZHAKKU;KURUNI;PATHAKKU;MUKKURUNI;KAACU;PANAM;PON;VARAAKAN;PAARAM;
     KUZHI;VELI
   11FE4|tm |WET CULTIVATION s;DRY CULTIVATION s;LAND s;SALT PAN s;TRADITIONAL CREDIT s;TRADITIONAL nu s;CURRENT s;
     n ODD s;SPENT s;TOTAL s;IN POSSESSION s;STARTING fr s;s MUTHALIYA;s VAKAIYARAA
   11FFF||tm pu END OF TEXT;cu s A
   12001|cu s A j |A;BAD;GAN2 tn;HA;IGI;LAGAR gu;MUSH;SAG
   12009|cu s A|2;B
   1200B|cu s AB j |ASH2;DUN3 gu;GAL;GAN2 tn;HA;IGI gu;IMIN;LAGAB;SHESH;U pl U pl U
   12015|cu s A|B gu;B2;B2 j BALAG;B2 j GAN2 tn;B2 j ME pl EN;B2 j SHA3;B2 j TAK4;D;K;K j ERIN2;K j SHITA pl GISH;L
   12021|cu s AL j |AL;DIM2;GISH;HA;KAD3;KI;SHE;USH
   12029|cu s |ALAN;am;AMAR;AMAR j SHE;AN;AN ov AN;AN h j;AN pl NAGA os AN pl NAGA;AN pl NAGA sd;ANSHE;APIN;ARAD;
     ARAD j KUR;ARKAB;ASAL2;as;as ZIDA tn;as KABA tn;as ov as TUG2 ov TUG2 TUG2 ov TUG2 PAP;as ov as ov as;
     as ov as ov as cn as ov as ov as;ASH2;ASHGAB;BA;BAD;BAG3;BAHAR2;BAL;BAL ov BAL;BALAG;ba;BARA2;BI;BI j A;BI j GAR;
     BI j IGI gu;BU;BU ov BU AB;BU ov BU UN;BU cn BU;BULUG;BULUG ov BULUG;BUR;BUR2;DA;DAG
   12057|cu s DAG KISIM5 j |A pl MASH;AMAR;BALAG;BI;GA;GA pl MASH;GI;GIR2;GUD;HA;IR;IR pl LU;KAK;LA;LU;LU pl MASH2;
     LUM;NE;PAP pl PAP;SI;TAK4;U2 pl GIR2;USH
   1206E|cu s |DAM;DAR;DARA3;DARA4;DI;DIB;DIM;DIM j SHE;DIM2;DIN;DIN ks U gu dk;dk
   1207A|cu s DU|; ov DU; gu; hq;B;B j ESH2;B2;G;GUD;H;N;N3;N3 gu;N3 gu gu;N4;R2
   1208A|cu s E|; j PAP; ov E nn ov nn;2;2 j A pl HA pl DA;2 j GAR;2 j MI;2 j SAL;2 j SHE;2 j U;DIN;GIR;L;N;
     N j GAN2;N j GAN2 tn;N j ME;N cn EN;N os EN;N sd;REN;RIN2;SH2;ZEN
   120A2|cu s EZEN j |A;A pl LAL;A pl LAL j LAL;AN;BAD;DUN3 gu;DUN3 gu gu;HA;HA gu;IGI gu;ks;ks sd;KU3;LA;LAL j LAL;
     LI;LU;U2;UD
   120B5|cu s GA|; gu;2
   120B8|cu s GA2 j |A pl DA pl HA;A pl HA;A pl IGI;AB2 tn pl TAB;AN;as;ASH2 pl GAL;BAD;ba pl RA;BUR;BUR pl RA;DA;
     DI;DIM j SHE;DUB;EL;EL pl LA;EN;EN j GAN2 tn;GAN2 tn;GAR;GI;GI4;GI4 pl A;GIR2 pl SU;HA pl LU pl ESH2;HAL;
     HAL pl LA;HI pl LI;HUB2;IGI gu;ISH pl HU pl as;KAK;ks;KID;KID pl LAL;KU3 pl AN;LA;ME pl EN;MI;nn;nn ov nn;PA;SAL;
     SAR;SHE;SHE pl TUR;SHID;SUM;TAK4;U;UD;UD pl DU
   120ED|cu s GA|2 ov GA2;BA;BA cn GABA;D;D ov GAD GAR ov GAR;L;L GAD ov GAD GAR ov GAR;LAM;M;N;N2;N2 tn;N2 ov GAN2;
     N2 cn GAN2;R;R3;SHAN
   120FE|cu s GESHTIN|; j KUR
   12100|cu s GI|; j E; j U; cn GI;4;4 ov GI4;4 cn GI4;DIM;R2;R2 gu;R3;R3 j A pl IGI;R3 j GAN2 tn;R3 j IGI;
     R3 j LU pl IGI;R3 j PA;SAL;SH;SH cn GISH;SH j BAD;SH j TAK4;SH tn
   12116|cu s GU|; cn GU;2;2 j KAK;2 j KAK j IGI gu;2 j nn;2 j SAL pl TUG2;2 gu;D;D j A pl KUR;D j KUR;
     D ov GUD LUGAL;L;M;M j SHE;R;R7;RUN;RUSH
   12129|cu s H|A;A tn;A gu;AL;I
   1212E|cu s HI j |as;ASH2;BAD;dk;GAD;KIN;nn;SHE;U
   12137|cu s HU|;B2;B2 j AN;B2 j HAL;B2 j ks;B2 j LISH;B2 j UD;L2
   1213F|cu s I|; A;B;DIM;DIM ov IDIM BUR;DIM ov IDIM sd;G;GI;GI DIB;GI RI;GI ov IGI SHIR ov SHIR UD ov UD;GI gu;L;
     L j GAN2 tn;L2;M;M j TAK4;M cn IM;M os IM;M sd;MIN;N;R;SH
   12157|cu s KA|
   12158|cu s KA j |A;AD;AD pl KU3;ASH2;BAD;BALAG;ba;BI;ERIN2;ESH2;GA;GAL;GAN2 tn;GAR;GAR pl SHA3 pl A;GI;GIR2;
     GISH pl SAR;GISH cn GISH;GU;GUR7;IGI;IM;KAK;KI;KID;LI;LU;ME;ME pl DU;ME pl GI;ME pl TE;MI;MI pl NUNUZ;NE;nn;PI;
     RU;SA;SAR;sh;SHE;SHID;SHU;SIG;SUHUR;TAR;U;U2;UD;UMUM j PA;USH;ZI
   1218D|cu s KA|2;2 cn KA2;B;D2;D3;D4;D5;D5 ov KAD5;K;K j IGI gu;L;L j BAD;L cn KAL;M2;M4
   1219C|cu s ks|; LAGAB j U ov LAGAB j U; ov ks LAGAB j U ov LAGAB j U
   1219F|cu s K|ESH2;I;I j BAD;I j U;I j UD;ID;IN;ISAL;ISH;ISIM5;ISIM5 ov KISIM5;U;U ov HI j ASH2 KU ov HI j ASH2;
     U3;U4;U4 vn f;U7;UL;UL gu;UN;UR;UR os KUR;USHU2;WU318
   121B7|cu s LA|;GAB
   121B9|cu s LAGAB j |A;A pl DA pl HA;A pl GAR;A pl LAL;AL;AN;as ZIDA tn;BAD;BI;DAR;EN;GA;GAR;GUD;GUD pl GUD;HA;
     HAL;HI j nn;IGI gu;IM;IM pl HA;IM pl LU;KI;KIN;KU3;KUL;KUL pl HI pl A;LAGAB;LISH;LU;LUL;ME;ME pl EN;MUSH;NE;
     SHE pl SUM;SHITA pl GISH pl ERIN2;SHITA pl GISH tn;SHU2;SHU2 pl SHU2;SUM;TAG;TAK4;TE pl A pl SU pl NA;U;U pl A;
     U pl U pl U;U2 pl as;UD;USH
   121EB|cu s LAGA|B sd;R;R j SHE;R j SHE pl SUM;R gu;R gu ov LAGAR gu SHE
   121F1|cu s |LAHSHU;LAL;LAL j LAL;lm;lm j KUR;lm j KUR pl RU;LI;LIL;LIMMU2;LISH;LU;LU j BAD;LU2
   121FE|cu s LU2 j |AL;BAD;ESH2;ESH2 tn;GAN2 tn;HI j BAD;IM;KAD2;KAD3;KAD3 pl as;KI;LA pl as;LAGAB;ME pl EN;NE;NU;
     SI pl as;SIK2 pl BU;TUG2
   12211|cu s LU|2 tn;2 cn LU2;2 os LU2;2 sd;2 hq;3;GAL;GAL ov LUGAL;GAL os LUGAL;GAL hq;H;L;M;M ov LUM;
     M ov LUM GAR ov GAR
   12220|cu s M|A;A j TAK4;A gu;A2;AH;AR;ASH;ASH2;E;ES;I;IN;U;U ov MU;UG;UG gu;UNSUB;URGU2
   12232|cu s MUSH|; j A; j KUR; j ZA; ov MUSH; ov MUSH j A pl NA; cn MUSH;3;3 j A;3 j A pl DI;3 j DI;3 gu
   1223E|cu s N|A;A2;AGA;AGA iv;AGA j SHU tn;AGA os NAGA;AGAR;AM NUTILLU;AM;AM2;E;E j A;E j UD;E hq;I;I j E;I2;IM;
     IM j GAN2 tn;IM j GAR pl GAN2 tn;INDA2
   12253|cu s NINDA2 j |AN;as;as pl as;GUD;ME pl GAN2 tn;NE;nn;SHE;SHE pl A AN;SHE pl as;SHE pl as pl as;U2 pl as;USH
   12260|cu s |NISAG;NU;NU11;nn
   12264|cu s nn LAGAR j |GAR;MASH;SAL;SAL ov nn LAGAR j SAL;USH
   12269|cu s |nn tn;nn ov nn;nn cn nn;nn cn nn LAGAR ov LAGAR;NUNUZ
   1226E|cu s NUNUZ AB2 j |ASHGAB;BI;DUG;GUD;IGI gu;KAD3;LA;NE;SILA3;U2
   12278|cu s NUNUZ KISIM5 j BI|; U
   1227A|cu s P|A;AD;AN;AP;ESH2;I
   12280|cu s PI j |A;AB;BI;BU;E;I;IB;U;U2
   12289|cu s |PI cn PI;PIRIG;PIRIG j KAL;PIRIG j UD;PIRIG j ZA;PIRIG os PIRIG;RA;RAB;RI;RU;SA;SAG NUTILLU;SAG
   12296|cu s SAG j |A;DU;DUB;HA;KAK;KUR;LUM;MI;nn;SAL;SHID;TAB;U2;UB;UM;UR;USH
   122A7|cu s |SAG ov SAG;SAG gu;SAL;SAL LAGAB j ASH2;SANGA2;SAR;sh;SHA3
   122AF|cu s SHA3 j |A;BAD;GISH;NE;SHU2;TUR;U;U pl A
   122B7|cu s SH|A6;AB6;AR2;E;E HU;E ov SHE GAD ov GAD GAR ov GAR;E ov SHE TAB ov TAB GAR ov GAR;EG9;EN;ESH;ESH2;
     ESHLAM;ID;ID j A;ID j IM;IM
   122C7|cu s SHIM j |A;BAL;BULUG;DIN;GAR;IGI;IGI gu;KUSHU2;LUL;MUG;SAL
   122D2|cu s S|HINIG;HIR;HIR tn;HIR ov SHIR BUR ov BUR;HITA;HU;HU ov iv SHU;HU2;HUBUR;I;I gu;IG;IG4;
     IG4 ov SIG4 SHU2;IK2;ILA3;U;U ov SU;UD;UD2;UHUR;UM;UMASH;UR;UR9
   122EB|cu s TA|; at; j HI; j MI; gu;B;B ov TAB NI ov NI dk ov dk;B sd;G
   122F4|cu s TAG j |BI;GUD;SHE;SHU;TUG2;UD
   122FA|cu s T|AK4;AR;E;E gu;I;I tn;IL;IR;IR j TAK4;IR ov TIR;IR ov TIR GAD ov GAD GAR ov GAR;U;UG2;UK;UM;UR;
     UR ov TUR ZA ov ZA
   1230B|cu s U|; GUD; U U; ov U PA ov PA GAR ov GAR; ov U SUR ov SUR; ov U U re ov U re;2;B;D;D KUSHU2;D j BAD;
     D j MI;D j U pl U pl U;D j U pl U pl U gu;D gu;D hq;D hq j BAD;DUG;M;M j LAGAB;M j ME pl DA;M j SHA3;M j U;MBIN;
     MUM;MUM j ks;MUM j PA;N;N gu;R;R cn UR;R hq;R2
   1232C|cu s UR2 j |A pl HA;A pl NA;AL;HA;nn;U2;U2 pl as;U2 pl BI
   12334|cu s UR|4;I;I3;U
   12338|cu s URU j |A;ASHGAB;ba;DUN;GA;GAL;GAN2 tn;GAR;GU;HA;IGI;IM;ISH;KI;LUM;MIN;PA;SHE;SIG4;TU;U pl GUD;UD;URUDA
   1234F|cu s U|RUDA;RUDA j U;SH;SH j A;SH j KU;SH j KUR;SH j TAK4;SHX;SH2;SHUMX;TUKI;Z3;Z3 j ks;ZU
   1235D|cu s Z|A;A tn;A sd j KUR;AG;AMX;E2;I;I ov ZI;I3;IB;IB KABA tn;IG;IZ2;U;U5;U5 j A;UBUR;UM
   1236F|cu s |KAP ELAMITE;AB j nn;AB2 j A;AMAR j KUG;DAG KISIM5 j U2 pl MASH;DAG3;dk pl SHU;DUB j SHE;EZEN j GUD;
     EZEN j SHE;GA2 j AN pl KAK pl A;GA2 j ASH2;GE22;GIG;HUSH
   1237E|cu s KA j |ANSHE;ASH3;GISH;GUD;HI j ASH2;LUM;PA;SHUL;TU;UR2
   12388|cu s |LAGAB j GI;LU2 hq j BAD;LU2 j ESH2 pl LAL;LU2 j SHU;MESH;MUSH3 j ZA;NA4;NIN;NIN9;NINDA2 j BAL;
     NINDA2 j GI;NU11 ro ne dr;PESH2 at;PIR2;SAG j IGI gu;TI2;UM j ME;U U
   12400|cu NUMERIC s |t as;h as;u as;fi as;si as;se as;ei as;ni as;h dk;u dk;fi dk;si dk;se dk;ei dk;ni dk;u U;
     fi U;si U;se U;ei U;ni U;o GESH2;t GESH2;h GESH2;u GESH2;fi GESH2;si GESH2;se GESH2;ei GESH2;ni GESH2;o GESHU;
     t GESHU;h GESHU;u GESHU;fi GESHU;t SHAR2;h SHAR2;h SHAR2 vn f;u SHAR2;fi SHAR2;si SHAR2;se SHAR2;ei SHAR2;
     ni SHAR2;o SHARU;t SHARU;h SHARU;h SHARU vn f;u SHARU;fi SHARU;SHAR2 j GAL pl dk;SHAR2 j GAL pl MIN;o BURU;
     t BURU;h BURU;h BURU vn f;u BURU;fi BURU;h vn f ESH16;h vn f ESH21;u vn f LIMMU;u vn f LIMMU4;u vn f LIMMU A;
     u vn f LIMMU B;si vn f ASH9;se vn f IMIN3;se vn f IMIN A;se vn f IMIN B;ei vn f USSU;ei vn f USSU3
   12446|cu NUMERIC s ni vn f ILIMMU|;3;4; A
   1244A|cu NUMERIC s |t as tn;h as tn;u as tn;fi as tn;si as tn;o BAN2;t BAN2;h BAN2;u BAN2;u BAN2 vn f;fi BAN2;
     fi BAN2 vn f;NIGIDAMIN;NIGIDAESH;o ESHE3;t ESHE3;o THIRD dk;t THIRDS dk;fi SIXTHS dk;o THIRD vn f A;
     t THIRDS vn f A;o eh as;o qu as;ol ASSYRIAN o SIXTH;ol ASSYRIAN o qu;o qu GUR;o ha GUR;ELAMITE o THIRD;
     ELAMITE t THIRDS;ELAMITE ft;ELAMITE ff;u U vn f;fi U vn f;si U vn f;se U vn f;ei U vn f;ni U vn f
   12470|cu pu s |ol ASSYRIAN WORD DIVIDER;ve cd;da cd;da TRICOLON;da QUADCOLON
   12480|cu s |AB j nn tn;AB j SHU2;AD j ESH2;BAD j dk tn;BAHAR2 j AB2;BAHAR2 j NI;BAHAR2 j ZA;BU ov BU j NA2;
     DA j TAK4;DAG j KUR;DIM j IGI;DIM j U U U;DIM2 j UD
   1248D|cu s DUG j |ANSHE;as;as AT e;DIN;DUN;ERIN2;GA;GI;GIR2 gu;GISH;HA;HI;IGI gu;ks;KUR;KUSHU2;KUSHU2 pl ks;
     LAK-020;lm;lm j KUR;LUH pl GISH;MASH;MES;MI;NI;PI;SHE;SI gu
   124A9|cu s E|2 j KUR;2 j PAP;RIN2 X;SH2 cn ESH2
   124AD|cu s EZEN hq j |as;HI;IGI gu;LA;LAL;ME;MES;SU
   124B5|cu s EZEN j SU|
   124B6|cu s GA2 j |BAHAR2;DIM gu;DUG j IGI gu;DUG j ks;EREN;GA;GAR pl DI;GAR pl NE;HA pl A;KUSHU2 pl ks;lm;
     lm j KUR;LUH;MUSH;NE;NE pl E2;NE pl GI;SHIM;ZIZ2
   124C9|cu s |GABA ro ne dr;GESHTIN j U;GISH j GISH cn GISH;GU2 j IGI gu;GUD pl GISH j TAK4;HA tn gu;
     HI j as ov HI j as;KA j BU;KA j KA;KA j U U U;KA j UR;LAGAB j ZU ov ZU
   124D5|cu s LAK-|003;021;025;030;050;051;062;079 ov LAK-079 gu;080;081 ov LAK-081;092;130;142;210;219;220;225;228;
     238;265;266;343;347;348;383;384;390;441;449;449 j GU;449 j IGI;449 j PAP pl LU3;449 j PAP pl PAP pl LU3;
     449 j U2 pl BA;450;457;470;483;490;492;493;495;550;608;617
   12502|cu s LAK-617 j |as;BAD;DUN3 gu gu;KU3;LA;TAR;TE;U2;UD;URUDA
   1250C|cu s LAK-6|36;48
   1250E|cu s LAK-648 j |DUB;GA;IGI;IGI gu;NI;PAP pl PAP pl LU3;SHESH pl KI;UD;URUDA
   12517|cu s L|AK-724;AK-749;U2 gu j as
   1251A|cu s LU2 j |dk;HAL;PAP;PAP pl PAP pl LU3;TAK4
   1251F|cu s MI pl ZA7|
   12520|cu s MUSH ov MUSH j |GA;KAK
   12522|cu s NINDA2 j |DIM gu;GISH;GUL;HI;KESH2;LAK-050;MASH;PAP pl PAP;U;U pl U;URUDA
   1252D|cu s |SAG gu j HA;SAG j EN;SAG j SHE AT e;SAG j TAK4;SHA6 tn;SHE ov SHE;SHE pl HUB2;SHE pl NAM2;SHE pl SAR;
     SHU2 pl DUG j NI;SHU2 pl E2 j AN;SI j TAK4;TAK4 pl SAG;TUM j GAN2 tn;TUM j h dk;UR2 iv;UR2 j UD;URU j DARA3;
     URU j LAK-668;URU j LU3;ZA7;ZU ov ZU pl SAR;ZU5 j h dk tn
   12F90|CYPRO-MINOAN s CM0|01;02;04;05;06;07;08;09;10;11;12;12B;13;15;17;19;21;23;24;25;26;27;28;29;30;33;34;35;36;
     37;38;39;40;41;44;46;47;49;50;51;52;53;54;55;56;58;59;60;61;62;63;64;66;67;68;69;70;71;72;73;74;75;75B;76;78;79;
     80;81;82;83;84;85;86;87;88;89;90;91;92;94;95;96;97;98;99
   12FE5|CYPRO-MINOAN s CM|100;101;102;103;104;105;107;108;109;110;112;114;301;302
   13000|eg hg A0|01;02;03;04;05;05A;06;06A;06B;07;08;09;10;11;12;13;14;14A;15;16;17;17A;18;19;20;21;22;23;24;25;26;
     27;28;29;30;31;32;32A;33;34;35;36;37;38;39;40;40A;41;42;42A;43;43A;44;45;45A;46;47;48;49
   1303B|eg hg A0|5;6|0;1;2;3;4;5;6;7;8;9
   1304F|eg hg A070|
   13050|eg hg B00|1;2;3;4;5;5A;6;7;8;9
   1305A|eg hg C0|01;02;02A;02B;02C;03;04;05;06;07;08;09;10;10A;11;12;13;14;15;16;17;18;19;20;21;22;23;24
   13076|eg hg D0|01;02;03;04;05;06;07;08;08A;09;10;11;12;13;14;15;16;17;18;19;20;21;22;23;24;25;26;27;27A;28;29;30;
     31;31A;32;33;34;34A;35;36;37;38;39;40;41;42;43;44;45;46;46A;47;48;48A;49
   130AD|eg hg D05|0;0A;0B;0C;0D;0E;0F;0G;0H;0I;1;2;2A;3;4;4A;5;6;7;8;9
   130C2|eg hg D06|0;1;2;3;4;5;6;7;7A;7B;7C;7D;7E;7F;7G;7H
   130D2|eg hg E0|01;02;03;04;05;06;07;08;08A;09;09A;10;11;12;13;14;15;16;16A;17;17A;18;19;20;20A;21;22;23;24;25;26;
     27;28;28A;29;30;31;32;33;34;34A;36;37;38
   130FE|eg hg F0|01;01A;02;03;04;05;06;07;08;09;10;11;12;13;13A;14;15;16;17;18;19;20;21;21A;22;23;24;25;26;27;28;
     29;30;31;31A;32;33;34;35;36;37;37A;38;38A;39;40;41;42;43;44;45;45A;46;46A;47;47A;48;49;50;51;51A;51B;51C;52;53
   1313F|eg hg G0|01;02;03;04;05;06;06A;07;07A;07B;08;09;10;11;11A;12;13;14;15;16;17;18;19;20;20A;21;22;23;24;25;26;
     26A;27;28;29;30;31;32;33;34;35;36;36A;37;37A;38;39;40;41;42;43;43A;44;45;45A;46;47;48;49;50;51;52;53;54
   1317F|eg hg H00|1;2;3;4;5;6;6A;7;8
   13188|eg hg I00|1;2;3;4;5;5A;6;7;8;9;9A
   13193|eg hg I01|0;0A;1;1A;2;3;4;5
   1319B|eg hg K00|1;2;3;4;5;6;7;8
   131A3|eg hg L00|1;2;2A;3;4;5;6;6A;7;8
   131AD|eg hg M00|1;1A;1B;2;3;3A;4;5;6;7;8;9
   131B9|eg hg M01|0;0A;1;2;2A;2B;2C;2D;2E;2F;2G;2H;3;4;5;5A;6;6A;7;7A;8;9
   131CF|eg hg M0|20;21;22;22A;23;24;24A;25;26;27;28;28A;29;30;31;31A;32;33;33A;33B;34;35;36;37;38;39;40;40A;41;42;
     43;44
   131EF|eg hg N0|01;02;03;04;05;06;07;08;09;10;11;12;13;14;15;16;17;18;18A;18B;19;20;21;22;23;24;25;25A;26;27;28;
     29;30;31;32;33;33A;34;34A;35;35A;36;37;37A;38;39;40;41;42
   13220|eg hg NL0|01;02;03;04;05;05A;06;07;08;09;10;11;12;13;14;15;16;17;17A;18;19;20
   13236|eg hg NU0|01;02;03;04;05;06;07;08;09;10;10A;11;11A;12;13;14;15;16;17;18;18A;19;20;21;22;22A
   13250|eg hg O00|1;1A;2;3;4;5;5A;6;6A;6B;6C;6D;6E;6F;7;8;9
   13261|eg hg O0|10;10A;10B;10C;11;12;13;14;15;16;17;18;19;19A;20;20A;21;22;23;24;24A;25;25A;26;27;28;29;29A;30;
     30A;31;32;33;33A;34;35;36;36A;36B;36C;36D;37;38;39;40;41;42;43;44;45;46;47;48;49;50;50A;50B;51
   1329B|eg hg P0|01;01A;02;03;03A;04;05;06;07;08;09;10;11
   132A8|eg hg Q00|1;2;3;4;5;6;7
   132AF|eg hg R00|1;2;2A;3;3A;3B;4;5;6;7;8;9
   132BB|eg hg R01|0;0A;1;2;3;4;5;6;6A;7;8;9
   132C7|eg hg R02|0;1;2;3;4;5;6;7;8;9
   132D1|eg hg S0|01;02;02A;03;04;05;06;06A;07;08;09;10;11;12;13;14;14A;14B;15;16;17;17A;18;19;20;21;22;23;24;25;26;
     26A;26B;27;28;29;30;31;32;33;34;35;35A;36;37;38;39;40;41;42;43;44;45;46
   13307|eg hg T0|01;02;03;03A;04;05;06;07;07A;08;08A;09;09A;10;11;11A;12;13;14;15;16;16A;17;18;19;20;21;22;23;24;
     25;26;27;28;29;30;31;32;32A;33;33A;34;35;36
   13333|eg hg U0|01;02;03;04;05;06;06A;06B;07;08;09;10;11;12;13;14;15;16;17;18;19;20;21;22;23;23A;24;25;26;27;28;
     29;29A;30;31;32;32A;33;34;35;36;37;38;39;40;41;42
   13362|eg hg V00|1;1A;1B;1C;1D;1E;1F;1G;1H;1I;2;2A;3;4;5;6;7;7A;7B;8;9
   13377|eg hg V01|0;1;1A;1B;1C;2;2A;2B;3;4;5;6;7;8;9
   13386|eg hg V020|;A;B;C;D;E;F;G;H;I;J;K;L
   13393|eg hg V0|21;22;23;23A;24;25;26;27;28;28A;29;29A;30;30A;31;31A;32;33;33A;34;35;36;37;37A;38;39;40;40A
   133AF|eg hg W0|01;02;03;03A;04;05;06;07;08;09;09A;10;10A;11;12;13;14;14A;15;16;17;17A;18;18A;19;20;21;22;23;24;
     24A;25
   133CF|eg hg X00|1;2;3;4;4A;4B;5;6;6A;7;8;8A
   133DB|eg hg Y00|1;1A;2;3;4;5;6;7;8
   133E4|eg hg Z00|1;2;2A;2B;2C;2D;3;3A;3B;4;4A;5;5A;6;7;8;9
   133F5|eg hg Z01|0;1;2;3;4;5;5A;5B;5C;5D;5E;5F;5G;5H;5I;6;6A;6B;6C;6D;6E;6F;6G;6H
   1340D|eg hg AA00|1;2;3;4;5;6;7;7A;7B;8;9
   13418|eg hg AA0|1;2|0;1;2;3;4;5;6;7;8;9
   1342C|eg hg AA03|0;1;2
   13430|eg hg |ve JOINER;hr JOINER
   13432/eg hg INSERT AT |tg;bt| |START;END
   13436|eg hg |oa mi;BEGIN SEGMENT;END SEGMENT
   14400|bj hg A0|01;02;03;04;05;06;07;08;09;10;10A;11;12;13;14;15;16;17;18;19;20;21;22;23;24;25;26;26A;27;28;29;30;
     31;32;33;34;35;36;37;38;39;39A;40;41;41A;42;43;44;45;45A;46;46A;46B;47;48;49;50;51;52;53;54;55;56;57;58;59;60;61;
     62;63;64;65;66;66A;66B;66C;67;68;69
   1444F|bj hg A0|7;8|0;1;2;3;4;5;6;7;8;9
   14463|bj hg A09|0;1;2;3;4;5;6;7;7A;8;8A;9
   1446F|bj hg A10|0;0A;1;1A;2;2A;3;4;4A;4B;4C;5;5A;5B;6;7;7A;7B;7C;8;9
   14484|bj hg A11|0;0A;0B;1;2;3;4;5;5A;6;7;8;9
   14491|bj hg A1|2;3|0;1;2;3;4;5;5A;6;7;8;9
   144A7|bj hg A1|4;5;6;7;8;9|0;1;2;3;4;5;6;7;8;9
   144E3|bj hg A20|0;1;2;2A;2B;3;4;5;6;7;7A;8;9;9A
   144F1|bj hg A21|0;1;2;3;4;5;5A;6;6A;7;8;9
   144FD|bj hg A22|0;1;2;3;4;5;6;7;7A;8;9
   14508|bj hg A2|3;4;5|0;1;2;3;4;5;6;7;8;9
   14526|bj hg A26|0;1;2;3;4;5;6;7;7A;8;9
   14531|bj hg A2|7;8|0;1;2;3;4;5;6;7;8;9
   14545|bj hg A2|89A;90;91;92;93;94;94A;95;96;97;98;99;99A
   14552|bj hg A30|0;1;2;3;4;5;6;7;8;9;9A
   1455D|bj hg A3|1;2|0;1;2;3;4;5;6;7;8;9
   14571|bj hg A3|29A;30;31;32A;32B;32C;33;34;35;36;36A;36B;36C;37;38;39
   14581|bj hg A3|4;5|0;1;2;3;4;5;6;7;8;9
   14595|bj hg A3|59A;60;61;62;63;64;64A;65;66;67;68;68A;69;70;71;71A;72;73;74;75;76;77;78;79;80;81;81A;82;
     83 RA OR RI;83A;84;85;86;86A;87;88;89;90;91;92;93 ei;94;95;96;97;98;99
   145C4|bj hg A40|0;1;2;3;4;5;6;7;8;9
   145CE|bj hg A41|0 BEGIN LOGOGRAM k;0A END LOGOGRAM k;1;2;3;4;5;6;7;8;9
   145D9|bj hg A4|2;3;4|0;1;2;3;4;5;6;7;8;9
   145F7|bj hg A45|0;0A;1;2;3;4;5;6;7;7A;8;9
   14603|bj hg A4|6;7;8|0;1;2;3;4;5;6;7;8;9
   14621|bj hg A49|0;1;2;3;4;5;6;7
   14629|bj hg A50|1;2;3;4;5;6;7;8;9
   14632|bj hg A5|1;2|0;1;2;3;4;5;6;7;8;9
   14646|bj hg A530|"

end FloScript.Text.CharName
