/-! Names of characters from 16000 to 1CFFF: scripts with many signs. -/
namespace FloScript.Text.CharName

/-- Rows of a table of abbreviated names. -/
def modern : String :=
  "16800|BAMUM l PHASE-A |NGKUE MFON;GBIEE FON;PON MFON PIPAEMGBIEE;PON MFON PIPAEMBA;NAA MFON;SHUENSHUET;TITA MFON;
     NZA MFON;SHINDA PA NJI;PON PA NJI PIPAEMGBIEE;PON PA NJI PIPAEMBA;MAEMBGBIEE;TU MAEMBA;NGANGU;MAEMVEUX;MANSUAE;
     MVEUAENGAM;SEUNYAM;NTOQPEN;KEUKEUTNDA;NKINDI;SUU;NGKUENZEUM;LAPAQ;LET KUT;NTAP MFAA;MAEKEUP;PASHAE;GHEUAERAE;
     PAMSHAE;MON NGGEUAET;NZUN MEUT;U YUQ NAE;GHEUAEGHEUAE;NTAP NTAA;SISA;MGBASA;MEUNJOMNDEUQ;MOOMPUQ;KAFA;
     PA LEERAEWA;NDA LEERAEWA;PET;MAEMKPEN;NIKA;PUP;TUAEP;LUAEP;SONJAM;TEUTEUWEN;MAENYI;KET;NDAANGGEUAET;KUOQ;MOOMEUT;
     SHUM;LOMMAE;FIRI;ROM;KPOQ;SOQ;MAP PIEET;SHIRAE;NTAP;SHOQ NSHUT YUM;NYIT MONGKEUAEQ;PAARAE;NKAARAE;UNKNOWN;NGGEN;
     MAESI;NJAM;MBANYI;NYET;TEUAEN;SOT;PAAM;NSHIEE;MAEM;NYI;KAQ;NSHA;VEE;LU;NEN;NAQ;MBAQ
   16857|BAMUM l PHASE-B |NSHUET;TU MAEMGBIEE;SIEE;SET TU;LOM NTEUM;MBA MAELEE;KIEEM;YEURAE;MBAARAE;KAM;PEESHI;
     YAFU LEERAEWA;lm NSHUT NYAM;NTIEE SHEUOQ;NDU NJAA;GHEUGHEUAEM;PIT;TU NSIEE;SHET NJAQ;SHEUAEQTU;MFON TEUAEQ;
     MBIT MBAAKET;NYI NTEUM;KEUPUQ;GHEUGHEN;KEUYEUX;LAANAE;PARUM;VEUM;NGKINDI MVOP;NGGEU MBU;WUAET;SAKEUAE;TAAM;MEUQ;
     NGGUOQ;NGGUOQ la;MFIYAQ;SUE;MBEURI;MONTIEEN;NYAEMAE;PUNGAAM;MEUT NGGEET;FEUX;MBUOQ;FEE;KEUAEM;MA NJEUAENA;
     MA NJUQA;LET;NGGAAM;NSEN;MA;KIQ;NGOM
   1688F|BAMUM l PHASE-C |NGKUE MAEMBA;NZA;YUM;WANGKUOQ;NGGEN;NDEUAEREE;NGKAQ;GHARAE;MBEEKEET;GBAYI;
     NYIR MKPARAQ MEUN;NTU MBIT;MBEUM;PIRIEEN;NDOMBU;MBAA CABBAGE-TREE;KEUSHEUAEP;GHAP;KEUKAQ;YU MUOMAE;NZEUM;MBUE;
     NSEUAEN;MBIT;YEUQ;KPARAQ;KAA;SEUX;NDIDA;TAASHAE;NJUEQ;TITA YUE;SUAET;NGGUAEN NYAM;VEUX;NANSANAQ;MA KEUAERI;NTAA;
     NGGUON;LAP;MBIRIEEN;MGBASAQ;NTEUNGBA;TEUTEUX;NGGUM;FUE;NDEUT;NSA;NSHAQ;BUNG;VEUAEPEN;MBERAE;RU;NJAEM;lm;TITUAEP;
     NSUOT NGOM;NJEEEE;KET;NGGU;MAESI;MBUAEM;LU;KUT;NJAM;NGOM;WUP;NGGUEET;NSOM;NTEN;KUOP NKAARAE;NSUN;NDAM;MA NSIEE;
     YAA;NDAP;SHUEQ;SETFON;MBI;MAEMBA;MBANYI;KEUSEUX;MBEUX;KEUM;MBAA PICKET;YUWOQ;NJEUX;MIEE;MUAE;SHIQ;KEN LAW;
     KEN FATIGUE;NGAQ;NAQ;LIQ;PIN;PEN;TET
   168F1|BAMUM l PHASE-D |MBUO;WAP;NJI;MFON;NJIEE;LIEE;NJEUT;NSHEE;NGGAAMAE;NYAM;WUAEN;NGKUN;SHEE;NGKAP;KEUAETMEUN;
     TEUT;SHEUAE;NJAP;SUE;KET;YAEMMAE;KUOM;SAP;MFEUT;NDEUX;MALEERI;MEUT;SEUAEQ;YEN;NJEUAEM;KEUOT MBUAE;NGKEURI;TU;
     GHAA;NGKYEE;FEUFEUAET;NDEE;MGBOFUM;LEUAEP;NDON;MONI;MGBEUN;PUUT;MGBIEE;MFO;LUM;NSIEEP;MBAA;KWAET;NYET;TEUAEN;SOT;
     YUWOQ;KEUM;RAEM;TEEEE;NGKEUAEQ;MFEUAE;NSIEET;KEUP;PIP;PEUTAE;NYUE;LET;NGGAAM;MFIEE;NGGWAEN;YUOM;PAP;YUOP;NDAM;
     NTEUM;SUAE;KUN;NGGEUX;NGKIEE;TUOT;MEUN;KUQ;NSUM;TEUN;MAENJET;NGGAP;LEUM;NGGUOM;NSHUT;NJUEQ;GHEUAE;KU;REN ol;TAE;
     TOQ;NYI;RII;LEEEE;MEEEE;M;SUU;MU;SHII;SHEUX;KYEE;NU;SHU;NTEE;PEE;NI;SHOQ;PUQ;MVOP;LOQ;REN MUCH;TI;NTUU;MBAA se;
     SAQ;FAA
   16966|BAMUM l PHASE-E |NDAP;TOON;MBEUM;LAP;VOM;LOON;PAA;SOM;RAQ;NSHUOP;NDUN;PUAE;TAM;NGKA;KPEUX;WUO;SEE;NGGEUAET;
     PAAM;TOO;KUOP;LOM;NSHIEE;NGOP;MAEM;NGKEUX;NGOQ;NSHUE;RIMGBA;NJEUX;PEEM;SAA;NGGURAE;MGBA;GHEUX;NGKEUAEM;NJAEMLI;
     MAP;LOOT;NGGEEEE;NDIQ;TAEN NTEUM;SET;PUM;NDAA SOFTNESS;NGGUAESHAE NYAM;YIEE;GHEUN;TUAE;YEUAE;PO;TUMAE;KEUAE;
     SUAEN;TEUAEQ;VEUAE;WEUX;LAAM;PU;TAAQ;GHAAMAE;NGEUREUT;SHEUAEQ;MGBEN;MBEE;NZAQ;NKOM;GBET;TUM;KUET;YAP;NYI CLEAVER;
     YIT;MFEUQ;NDIAQ;PIEEQ;YUEQ;LEUAEM;FUE;GBEUX;NGKUP;KET;MAE;NGKAAMI;GHET;FA;NTUM;PEUT;YEUM;NGGEUAE;NYI bw;NZUQ;
     POON;MIEE;FUET;NAE;MUAE;GHEUAE;FU I;MVI;PUAQ;NGKUM;KUT;PIET;NTAP;YEUAET;NGGUP;PA PEOPLE;FU CALL;FOM;NJEE;A;TOQ;O;
     I;LAQ;PA PLURAL;TAA;TAQ;NDAA MY HOUSE;SHIQ;YEUX;NGUAE;YUAEN;YOQ SWIMMING;YOQ COVER;YUQ;YUN;KEUX;PEUX;NJEE EPOCH;
     PUE;WUE;FEE;VEE;LU;MI;REUX;RAE;NGUAET;ng;SHO;SHOQ;FU REMEDY;NA;PI;LOQ;KO;MEN;MA;MAQ;TEU;KI;MON;te;FAQ;GHOM
   16A03|BAMUM l PHASE-F |KA;U;KU;EE;REE;TAE;NYI;LA;RII;RIEE;MEEEE;TAA;NDAA;NJAEM;M;SUU;SHII;SI;SEUX;KYEE;KET;NUAE;
     NU;NJUAE;YOQ;SHU;YA;NSHA;PEUX;NTEE;WUE;PEE;RU;NI;REUX;KEN;NGKWAEN;NGGA;SHO;PUAE;FOM;WA;LI;LOQ;KO;MBEN;REN;MA;MO;
     MBAA;TET;KPA;SAMBA;VUEQ
   16A40|MRO l |TA;NGI;YO;MIM;BA;DA;A;PHI;KHAI;HAO;DAI;CHU;KEAAE;OL;MAEM;NIN;PA;OO;O;RO;SHI;THEA;EA;WA;E;KO;LAN;LA;
     HAI;RI;TEK
   16A60|MRO di |ze;o;t;h;u;fi;si;se;ei;ni
   16A6E|MRO d|n; dn
   16A70|TANGSA l |O;A;V;E;I;U;AW;UI|Z;C;Q;X
   16A90|TANGSA l |x NG;ln UEX;sr UEZ;sr AWX;UEC;UEZ;UEQ;UEX;UIUZ;UIUC;UIUQ;UIUX;MZ;MC;MQ;MX;KA;kh;GA;ng;SA;YA;WA;
     PA;ny;ph;BA;MA;NA;HA;LA;HTA;TA;DA;RA;NHA;sh;CA;TSA;gh;HTTA;tb;XA;FA;dh;ch;ZA
   16AC0|TANGSA di |ze;o;t;h;u;fi;si;se;ei;ni
   16AD0|BASSA VAH l |ENNI;KA;SE;FA;MBE;YIE;GAH;DHII;KPAH;JO;HWAH;WA;ZO;GBU;DO;CE;UWU;TO;BA;VU;YEIN;PA;WADDA;A;O;OO;
     U;EE;E;I
   16AF0|BASSA VAH |co hi to;co lw to;co MID to;co LOW-MID to;co HIGH-LOW to;fu so
   16B00|PAHAWH HMONG vo K|EE;I;AU;U;E;AI;OO;AW;UA;O;IA;A;W;AA|B;V
   16B1C|PAHAWH HMONG ct |VAU;NTSAU;LAU;HAU;NLAU;RAU;NKAU;QHAU;YAU;HLAU;MAU;CHAU;NCHAU;HNAU;PLHAU;NTHAU;NAU;AU;XAU;
     CAU
   16B30|PAHAWH HMONG k CIM |TUB;SO;KES;KHAV;SUAM;HOM;TAUM
   16B37|PAHAWH HMONG s |VOS THOM;VOS TSHAB CEEB;CIM CHEEM;VOS THIAB;VOS FEEM;XYEEM NTXIV;XYEEM RHO;XYEEM TOV;
     XYEEM FAIB;VOS SEEV;MEEJ SUAB;VOS NRUA;IB YAM;XAUS;CIM TSOV ROG
   16B50|PAHAWH HMONG di |ze;o;t;h;u;fi;si;se;ei;ni
   16B5B|PAHAWH HMONG nu |TENS;HUNDREDS;te jk;MILLIONS;hu MILLIONS;te BILLIONS;TRILLIONS
   16B63|PAHAWH HMONG s |VOS LUB;XYOO;HLI;THIRD-STAGE HLI;ZWJ THAJ;HNUB;NQIG;XIAB;NTUJ;AV;TXHEEJ CEEV;MEEJ TSEEB;
     TAU;LOS;MUS;CIM HAIS LUS NTOG NTOG;CIM CUAM TSHOOJ;CIM TXWV;CIM TXWV CHWV;CIM PUB DAWB;CIM NRES TOS
   16B7D|PAHAWH HMONG CLAN s |TSHEEJ;YEEG;LIS;LAUJ;XYOOJ;KOO;HAWJ;MUAS;THOJ;TSAB;PHAB;KHAB;HAM;VAJ;FAJ;YAJ;TSWB;KWM;
     VWJ
   16E40|MEDEFAIDRIN |c l ;m l |M;S;V;W;ATIU;Z;KP;P;T;G;F;I;K;A;J;E;B;C;U;YU;L;Q;HP;NY;X;D;OE;N;R;O;AI;Y
   16E80|MEDEFAIDRIN di |ze;o;t;h;u;fi;si;se;ei;ni
   16E8A|MEDEFAIDRIN nu |te;ELEVEN;ej;THIRTEEN;FOURTEEN;fq;hv;js;ix;NINETEEN
   16E94|MEDEFAIDRIN |di o aa f;di t aa f;di h aa f;cm;fu so;y AIVA;ex OH
   16F00|MIAO l |PA;BA;YI PA;PLA;MA;MHA;ah MA;FA;VA;VFA;TA;DA;YI tt;YI TA;tt;dd;NA;NHA;YI na;ah NA;na;NNHA;LA;LYA;
     LHA;LHYA;TLHA;DLHA;TLHYA;DLHYA;KA;GA;YI KA;QA;QGA;ng;NGHA;ah ng;HA;XA;gh;GHHA;TSSA;DZZA;ny;NYHA;TSHA;DZHA;
     YI TSHA;YI DZHA;REFORMED TSHA;sh;SSA;ZHA;ZSHA;TSA;DZA;YI TSA;SA;ZA;ZSA;ZZA;ZZSA;ah ZZA;ZZYA;ZZSYA;WA;AH;HHA;BRI;
     SYI;DZYI;TE;TSE;RTE
   16F4F|MIAO |s ct mo ba;l NASALIZATION;s ASPIRATION;s REFORMED VOICING;s REFORMED ASPIRATION
   16F54|MIAO vo s |A;AA;AHH;AN;ANG;O;OO;WO;W;E;EN;ENG;OEY;I;IA;IAN;IANG;IO;IE;II;IU;ING;U;UA;UAN;UANG;UU;UEI;UNG;Y;
     YI;AE;AEE;ERR;ru ERR;ER;ru ER;AI;EI;AU;OU;N;NG;UOG;YUI;OG;OER;VW;IG;EA;IONG;UI
   16F8F|MIAO to |r;tg r;b;g
   16F93|MIAO l TONE-|2;3;4;5;6;7;8
   16F9A|MIAO l REFORMED TONE-|1;2;4;5;6;8
   16FE0||TANGUT ic k;NUSHU ic k;ol CHINESE ho k;ol CHINESE ic k;KHITAN m sc FILLER
   16FF0|VIETNAMESE aa READING k |CA;NHAY
   18800|TANGUT COMPONENT-00|1;2;3;4;5;6;7;8;9
   18809|TANGUT COMPONENT-|01;02;03;04;05;06;07;08;09;10;11;12;13;14;15;16;17;18;19;20;21;22;23;24;25;26;27;28;29;
     30;31;32;33;34;35;36;37;38;39;40;41;42;43;44;45;46;47;48;49;50;51;52;53;54;55;56;57;58;59;60;61;62;63;64;65;66;
     67;68;69;70;71;72;73;74;75|0;1;2;3;4;5;6;7;8;9
   18AF7|TANGUT COMPONENT-76|0;1;2;3;4;5;6;7;8
   1AFF0|kt l MINNAN TONE-|2;3;4;5
   1AFF5|kt l MINNAN TONE-|7;8
   1AFF7|kt l MINNAN NASALIZED TONE-|1;2;3;4;5
   1AFFD|kt l MINNAN NASALIZED TONE-|7;8
   1B000||kt l ah E;HIRAGANA l ah YE
   1B002|jd l |A-1;A-2;A-3;A-WO;I-1;I-2;I-3;I-4;U-1;U-2;U-3;U-4;U-5;E-2;E-3;E-4;E-5;E-6;O-1;O-2;O-3
   1B017|jd l KA-|1;2;3;4;5;6;7;8;9;10;11;KE
   1B023|jd l KI-|1;2;3;4;5;6;7;8
   1B02B|jd l KU-|1;2;3;4;5;6;7
   1B032|jd l KE-|1;2;3;4;5;6
   1B038|jd l KO-|1;2;3;KI
   1B03C|jd l SA-|1;2;3;4;5;6;7;8
   1B044|jd l S|I-;U-|1;2;3;4;5;6
   1B050|jd l SU-|7;8
   1B052|jd l S|E-;O-|1;2;3;4;5
   1B05C|jd l SO-|6;7
   1B05E|jd l T|A-;I-|1;2;3;4
   1B066|jd l T|I-5;I-6;I-7;U-1;U-2;U-3;U-4;U-TO
   1B06E|jd l TE-|1;2;3;4;5;6;7;8;9
   1B077|jd l TO-|1;2;3;4;5;6;RA
   1B07E|jd l NA-|1;2;3;4;5;6;7;8;9
   1B087|jd l NI-|1;2;3;4;5;6;7;TE
   1B08F|jd l N|U-;E-|1;2;3
   1B095|jd l NE-|4;5;6;KO
   1B099|jd l |NO-;HA-|1;2;3;4;5
   1B0A3|jd l H|A-6;A-7;A-8;A-9;A-10;A-11;I-1;I-2;I-3;I-4;I-5;I-6;I-7;U-1;U-2;U-3
   1B0B3|jd l H|E-;O-|1;2;3;4;5;6;7
   1B0C1|jd l HO-8|
   1B0C2|jd l M|A-;I-|1;2;3;4;5;6;7
   1B0D0|jd l M|U-1;U-2;U-3;U-4;E-1;E-2;E-MA;O-1;O-2;O-3;O-4;O-5;O-6
   1B0DD|jd l YA-|1;2;3;4;5;YO
   1B0E3|jd l Y|U-;O-|1;2;3;4
   1B0EB|jd l YO-|5;6
   1B0ED|jd l R|A-;I-|1;2;3;4
   1B0F5|jd l R|I-5;I-6;I-7;U-1;U-2;U-3;U-4;U-5;U-6;E-1;E-2;E-3;E-4;O-1;O-2;O-3;O-4;O-5;O-6
   1B108|jd l W|A-;I-|1;2;3;4;5
   1B112|jd l W|E-;O-|1;2;3;4
   1B11A|jd l WO-|5;6;7
   1B11D|jd l N-MU-MO-|1;2
   1B11F|HIRAGANA l ah WU|
   1B120|kt l ah |YI;YE;WU
   1B150|HIRAGANA l m W|I;E;O
   1B164|kt l m |WI;WE;WO;N
   1BC00|DUPLOYAN l |H;X;P;T;F;K;L;B;D;V;G;R;P N;D S;F N;K M;R S;TH;SLOAN DH;DH;KK;SLOAN J;HL;LH;RH;M;N;J;S;M N;N M;
     J M;S J;M w i;N w i;J w i;J w dt ii n b;S w i;S w i g;M S;N S;J S;S S;M N S;N M S;J M S;S J S;J S w i;J N;J N S;
     S T;S T R;S P;S P R;T S;T R S;W;WH;W R;S N;S M;K R S;G R S;S K;S K R;A;SLOAN OW;OA;O;AOU;I;E;IE;sr I;UI;EE;
     SLOAN EH;ROMANIAN I;SLOAN EE;ln I;YE;U;EU;XW;U N;ln U;ROMANIAN U;UH;SLOAN U;OOH;OW;OU;WA;WO;WI;WEI;WOW;NASAL U;
     NASAL O;NASAL I;NASAL A;PERNIN AN;PERNIN AM;SLOAN EN;SLOAN AN;SLOAN ON;vc M
   1BC70|DUPLOYAN AFFIX |e hr SECANT;MID hr SECANT;r hr SECANT;lw ve SECANT;MID ve SECANT;hi ve SECANT;bk SECANT;
     bk lk SECANT;bk TANGENT;bk tc;bk E ho;bk I ho;bk TANGENT ho
   1BC80|DUPLOYAN AFFIX hi |ac;TIGHT ac;ga;ln ga;i;ci;lb;wa;ve
   1BC90|DUPLOYAN AFFIX lw |ac;TIGHT ac;ga;ln ga;i;ci;lb;wa;ve;a
   1BC9C|DUPLOYAN |s O w cs;THICK l SELECTOR;d k;pu CHINOOK fu so
   1BCA0|SHORTHAND FORMAT |l OVERLAP;CONTINUING OVERLAP;do STEP;UP STEP
   1CF00|zn co k |GORAZDO NIZKO S kr ON e;NIZKO S kr ON e;TSATA ON e;GORAZDO NIZKO ON e;NIZKO ON e;SREDNE ON e;
     MALO pv ON e;pv ON e;VYSOKO ON e;MALO pv S KHOKHLOM ON e;pv S KHOKHLOM ON e;VYSOKO S KHOKHLOM ON e;
     GORAZDO NIZKO S kr ON r;NIZKO S kr ON r;TSATA ON r;GORAZDO NIZKO ON r;NIZKO ON r;SREDNE ON r;MALO pv ON r;
     pv ON r;VYSOKO ON r;MALO pv S KHOKHLOM ON r;pv S KHOKHLOM ON r;VYSOKO S KHOKHLOM ON r;TSATA S kr;MALO pv S kr;
     STRANNO MALO pv;pv S kr;pv STRANNO;VYSOKO S kr;MALO pv STRANNO;GORAZDO VYSOKO;ZELO;ON;RAVNO;TIKHAYA;BORZAYA;
     UDARKA;PODVERTKA;LOMKA;KUPNAYA;KACHKA;ZEVOK;SKOBA;RAZSEKA;KRYZH ON e
   1CF30|zn co TONAL RANGE k |MRACHNO;SVETLO;TRESVETLO
   1CF33|zn co k |ZADERZHKA;DEMESTVENNY ZADERZHKA;OTSECHKA;PODCHASHIE;PODCHASHIE w ve st;CHASHKA;CHASHKA POLNAYA;
     OBLACHKO;SOROCHYA NOZHKA;TOCHKA;DVOETOCHIE
   1CF3E|zn co |ATTACHING ve OMET;k ew OMET;k KRYZH;lo TONAL RANGE jg
   1CF42|zn PRIZNAK mo |LEVEL-2;LEVEL-3;DIRECTION FLIP;KRYZH;ROG
   1CF50|zn nm |KRYUK;KRYUK TIKHY;PARAKLIT;DVA V CHELNU;KLYUCH;ZANOZHEK;STOPITSA;STOPITSA S OCHKOM;PEREVODKA;
     PEREVODKA np;STOPITSA w SOROCHYA NOZHKA;CHELYUSTKA;PALKA;zp
   1CF5E|zn nm GOLUBCHIK |BORZY;TIKHY;MRACHNY;SVETLY;TRESVETLY
   1CF63|zn nm VRAKHIYA |;kl |PROSTAYA;MRACHNAYA;SVETLAYA;TRESVETLAYA
   1CF6B|zn nm |d zp;re CHELYUSTKA;DERBITSA;KHAMILO;CHASHKA;PODCHASHIE
   1CF71|zn nm SKAMEYTSA |MRACHNAYA;SVETLAYA;TRESVETLAYA;TIKHAYA
   1CF75|zn nm DEMESTVENNY KLYUCH|
   1CF76|zn nm SKAMEYTSA |kl SVETLAYA;KLYUCHENEPOSTOYANNAYA;kl TIKHAYA
   1CF79|zn nm SKAMEYTSA DVOECHELNAYA |PROSTAYA;SVETLAYA;np;kl
   1CF7D|zn nm SLOZHITIE|; S ZAPYATOY; ZAKRYTOE; S kr
   1CF81|zn nm |KRYZH;ROG;FITA;KOBYLA;ZMEYTSA;STATYA
   1CF87|zn nm STATYA |S ZAPYATOY;S kr;S ZAPYATOY I kr;S kr I ZAPYATOY;ZAKRYTAYA;ZAKRYTAYA S ZAPYATOY;S ROGOM;
     S DVUMYA ZAPYATYMI;S ZAPYATOY I PODCHASHIEM
   1CF90|zn nm |POLKULIZMY;STATYA np
   1CF92|zn nm STRELA |PROSTAYA;MRACHNOTIKHAYA;KRYZHEVAYA;POLUPOVODNAYA;POVODNAYA;np;KLYUCHEPOVODNAYA;
     KLYUCHENEPOSTOYANNAYA;TIKHAYA PUTNAYA
   1CF9B|zn nm STRELA DVOECHELN|AYA;OKRYZHEVAYA;OPOVODNAYA;AYA kl;OPOVODNAYA kl
   1CFA0|zn nm STRELA GROM|NAYA w sn zp;OPOVODNAYA w sn zp;NAYA;OPOVODNAYA;OPOVODNAYA w d zp;OKRYZHEVAYA;
     OKRYZHEVAYA POVODNAYA
   1CFA7|zn nm MECHIK|; POVODNY; KLYUCHEVOY; KLYUCHEPOVODNY; KLYUCHENEPOSTOYANNY
   1CFAC|zn nm STRELA TRYASO|GLASNAYA;POVODNAYA;STRELNAYA
   1CFAF|zn nm OSOKA|; SVETLAYA; TRESVETLAYA; KRYUKOVAYA SVETLAYA; kl SVETLAYA; kl np
   1CFB5|zn nm STRELA KRYUKOVAYA|; POVODNAYA; GROMNAYA w sn zp; GROMOPOVODNAYA w sn zp; GROMNAYA; GROMOPOVODNAYA;
      GROMOPOVODNAYA w d zp; GROMOKRYZHEVAYA; GROMOKRYZHEVAYA POVODNAYA; TRYASKA
   1CFBF|zn nm |KUFISMA;OBLAKO;DUDA;NEMKA;PAUK"

end FloScript.Text.CharName
