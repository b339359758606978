/-! Names of characters from 0000 to 08FF: alphabets of Europe and the Middle East. -/
namespace FloScript.Text.CharName

/-- Rows of a table of abbreviated names. -/
def alphabets : String :=
  "20||ab;ex k;qo k;nu s;DOLLAR s;PERCENT s;ih;gq;e pa;r pa;at;pl s;cm;HYPHEN-MINUS;fu so;sw
   30|di |ze;o;t;h;u;fi;si;se;ei;ni
   3A||cd;ee;ls s;eu s;ge s;qe k;COMMERCIAL AT
   41|v c l |A;B;C;D;E;F;G;H;I;J;K;L;M;N;O;P;Q;R;S;T;U;V;W;X;Y;Z
   5B||e sq bc;rv sw;r sq bc;cc ae;lw lb;ga ae
   61|v m l |A;B;C;D;E;F;G;H;I;J;K;L;M;N;O;P;Q;R;S;T;U;V;W;X;Y;Z
   7B||e cq bc;ve lb;r cq bc;tl
   A0||NO-BREAK ab;iv ex k;CENT s;POUND s;CURRENCY s;YEN s;BROKEN ba;sj s;de;COPYRIGHT s;FEMININE ORDINAL jg;
     lf d an qo k;nt s;SOFT hy;REGISTERED s;mc;DEGREE s;PLUS-MINUS s;ed t;ed h;ac ae;MICRO s;PILCROW s;mi i;aq;ed o;
     MASCULINE ORDINAL jg;rg d an qo k
   BC|VULGAR fc |o qu;o ha;h qr
   BF|iv qe k|
   C0|v c l A w |ga;ac;cc;tl;de;rn b
   C6|v c l |AE;C w aq
   C8|v c l |E w ;I w |ga;ac;cc;de
   D0|v c l |ETH;N w tl
   D2|v c l O w |ga;ac;cc;tl;de
   D7|mp s|
   D8|v c l |O w st;U w ga;U w ac;U w cc;U w de;Y w ac;THORN
   DF|v m l |SHARP S;A w ga;A w ac;A w cc;A w tl;A w de;A w rn b;AE;C w aq
   E8|v m l |E w ;I w |ga;ac;cc;de
   F0|v m l |ETH;N w tl
   F2|v m l O w |ga;ac;cc;tl;de
   F7|iw s|
   F8|v m l |O w st;U w ga;U w ac;U w cc;U w de;Y w ac;THORN;Y w de
   100/v |c;m| l |A w mc;A w be;A w OGONEK;C w ac;C w cc;C w i b;C w cj;D w cj;D w st;E w mc;E w be;E w i b;
     E w OGONEK;E w cj;G w cc;G w be;G w i b;G w aq;H w cc;H w st;I w tl;I w mc;I w be;I w OGONEK
   130|v |c l I w i b;m l dp I
   132/v |c;m| l|g IJ; J w cc; K w aq
   138|v m l KRA|
   139/v |c;m| l L w |ac;aq;cj;mi i;st
   143/v |c;m| l N w |ac;aq;cj
   149|v m l N PRECEDED BY gq|
   14A/v |c;m| l| ENG; O w mc; O w be; O w d ac;g OE
   154/v |c;m| l |R w ac;R w aq;R w cj;S w ac;S w cc;S w aq;S w cj;T w aq;T w cj;T w st;U w tl;U w mc;U w be;
     U w rn b;U w d ac;U w OGONEK;W w cc;Y w cc
   178|v c l Y w de|
   179/v |c;m| l Z w |ac;i b;cj
   17F|v |m l ln S;m l B w st;c l B w ho
   182/v |c;m| l |B w TOPBAR;to si
   186|v |c l op O;c l C w ho;m l C w ho;c l AFRICAN D;c l D w ho;c l D w TOPBAR;m l D w TOPBAR;m l tr DELTA;
     c l re E;c l SCHWA;c l op E;c l F w ho;m l F w ho;c l G w ho;c l GAMMA;m l HV;c l io;c l I w st;c l K w ho;
     m l K w ho;m l L w ba;m l LAMBDA w st;c l tr M;c l N w e ho;m l N w ln r LEG;c l O w mi tl
   1A0/v |c;m| l |O w HORN;OI;P w ho
   1A6|v |l YR;c l to t;m l to t;c l ESH;l re ESH LOOP;m l T w pt ho;c l T w ho;m l T w ho;c l T w rt ho;
     c l U w HORN;m l U w HORN;c l us;c l V w ho
   1B3/v |c;m| l |Y w ho;Z w st
   1B7|v c l EZH|; re
   1B9|v m l EZH |re;w tc
   1BB|v |l t w st;c l to fi;m l to fi;l iv gl so w st;l WYNN;l DENTAL CLICK;l LATERAL CLICK;l ALVEOLAR CLICK;
     l rt CLICK;c l DZ w cj;c l D w m l Z w cj;m l DZ w cj;c l LJ;c l L w m l J;m l LJ;c l NJ;c l N w m l J;m l NJ
   1CD/v |c;m| l |A w cj;I w cj;O w cj;U w cj
   1D5/v |c;m| l U w de n |mc;ac;cj;ga
   1DD|v m l tr E|
   1DE/v |c;m| l |A w de n mc;A w i b n mc;AE w mc;G w st;G w cj;K w cj;O w OGONEK;O w OGONEK n mc;EZH w cj
   1F0|v |m l J w cj;c l DZ;c l D w m l Z;m l DZ;c l G w ac;m l G w ac;c l HWAIR;c l WYNN
   1F8/v |c;m| l |N w ga;A w rn b n ac;AE w ac;O w st n ac;A w d ga;A w iv be;E w d ga;E w iv be;I w d ga;I w iv be;
     O w d ga;O w iv be;R w d ga;R w iv be;U w d ga;U w iv be;S w cm g;T w cm g;YOGH;H w cj
   220|v |c l N w ln r LEG;m l D w cp
   222/v |c;m| l |OU;Z w ho;A w i b;E w aq;O w de n mc;O w tl n mc;O w i b;O w i b n mc;Y w mc
   234|v m l |L w cp;N w cp;T w cp;dp J;DB dg;QP dg
   23A|v |c l A w st;c l C w st;m l C w st;c l L w ba;c l T w da st;m l S w SWASH tc;m l Z w SWASH tc;c l gl so;
     m l gl so
   243|v c l |B w st;U ba;tr V
   246/v |c;m| l |E w st;J w st
   24A|v |c l m Q w ho tc;m l Q w ho tc
   24C/v |c;m| l |R w st;Y w st
   250|v m l |tr A;ap;tr ap;B w ho;op O;C w cp;D w tc;D w ho;re E;SCHWA;SCHWA w ho;op E;re op E;re op E w ho;
     cl re op E;dp J w st;G w ho;sc G
   262|v l m c G|
   263|v m l |GAMMA;RAMS HORN;tr H;H w ho;HENG w ho;I w st;io
   26A|v l m c I|
   26B|v m l |L w mi tl;L w BELT;L w rt ho;LEZH;tr M;tr M w ln LEG;M w ho;N w e ho;N w rt ho
   274|v |l m c N;m l BARRED O;l m c OE
   277|v m l |cl om;PHI;tr R;tr R w ln LEG;tr R w ho;R w ln LEG;R w tc;R w FISHHOOK;re R w FISHHOOK
   280|v l m c |R;iv R
   282|v m l |S w ho;ESH;dp J w st n ho;SQUAT re ESH;ESH w cp;tr T;T w rt ho;U ba;us;V w ho;tr V;tr W;tr Y
   28F|v l m c Y|
   290|v m l |Z w rt ho;Z w cp;EZH;EZH w cp
   294|v l |gl so;PHARYNGEAL VOICED FRICATIVE;iv gl so;hz C;BILABIAL CLICK;m c B
   29A|v |m l cl op E;l m c G w ho;l m c H;m l J w gy;m l tr K;l m c L;m l Q w ho;l gl so w st;l re gl so w st
   2A3|v m l |DZ dg;DEZH dg;DZ dg w cp;TS dg;TESH dg;TC dg w cp;FENG dg;LS dg;LZ dg
   2AC|v l BI|LABIAL PERCUSSIVE;DENTAL PERCUSSIVE
   2AE|v m l tr H w FISHHOOK|; n tc
   2B0|mo l m |H;H w ho;J;R;tr R;tr R w ho;c iv R;W;Y
   2B9|mo l |PRIME;d PRIME;tr cm;gq;re cm;r ha rn;e ha rn;gl so;re gl so;e ar;r ar;UP ar;do ar;cc ae
   2C7|cj|
   2C8|mo l |ve lb;mc;ac ae;ga ae;lw ve lb;lw mc;lw ga ae;lw ac ae;tq cd;ha tq cd;gt r ha rn;gt e ha rn;UP tk;do tk;
     pl s;ms s
   2D8||be;i b;rn b;OGONEK;m tl;d ac ae
   2DE|mo l |RHOTIC ho;cs ae;m GAMMA;m L;m S;m X;m re gl so;EXTRA-HIGH to ba;hi to ba;MID to ba;lw to ba;
     EXTRA-LOW to ba;YIN DEPARTING to k;YANG DEPARTING to k;VOICING;UNASPIRATED;d gq;lw do ar;lw UP ar;lw e ar;
     lw r ar;lw rn;mi ga ae;mi d ga ae;mi d ac ae;lw tl;ra cd;BEGIN hi to;END hi to;BEGIN lw to;END lw to;SHELF;
     op SHELF;lw e a
   300|co |ga ae;ac ae;cc ae;tl;mc;on;be;i b;de;ho b;rn b;d ac ae;cj;ve lb b;d ve lb b;d ga ae;ca;iv be;tr cm b;
     cm b;re cm b;cm b r;ga ae g;ac ae g;e tk g;r tk g;e an b;HORN;e ha rn g;UP tk g;do tk g;pl s g;ms s g;
     PALATALIZED ho g;rt ho g;i g;de g;rn g;cm g;aq;OGONEK;ve lb g;BRIDGE g;iv d ARCH g;cj g;cc ae g;be g;iv be g;
     tl g;mc g;lw lb;d lw lb;tl oa
   335/co |sr;ln| s|t oa;w oa
   339|co |r ha rn g;iv BRIDGE g;sq g;SEAGULL g;X b;ve tl;d on;ga to k;ac to k;gr pe;gr KORONIS;gr dy tv;gr yp;
     BRIDGE b;eu s g;d ve lb g;e an g;nt tl b;HOMOTHETIC b;dz eq TO b;e r a g;uw a g;GRAPHEME JOINER;r ar b;e ha rn b;
     FERMATA;X g;e ar g;r ar g;r ar n UP ar g;r ha rn b;i b r;at g;d rn g;ZIGZAG b
   35C|co d |be g;be;mc;mc g;tl;iv be;ri a g
   363|co v m l |A;E;I;O;U;C;D;H;M;R;T;V;X
   370/gr |c;m| l |HETA;ah SAMPI
   374|gr |nl s;lo nl s;c l PAMPHYLIAN DIGAMMA;m l PAMPHYLIAN DIGAMMA
   37A|gr |yp;m re LUNATE SIGMA y;m dc LUNATE SIGMA y;m re dc LUNATE SIGMA y;qe k;c l YOT
   384|gr |tv;dy tv;c l ap w tv;ANO TELEIA;c l ep w tv;c l ETA w tv;c l io w tv
   38C|gr c l oo w tv|
   38E|gr |c l us w tv;c l om w tv;m l io w dy n tv
   391|gr c l |ap;BETA;GAMMA;DELTA;ep;ZETA;ETA;THETA;io;KAPPA;LAMDA;MU;NU;XI;oo;PI;RHO
   3A3|gr c l |SIGMA;TAU;us;PHI;CHI;PSI;om;io w dy;us w dy
   3AC|gr m l |ap w tv;ep w tv;ETA w tv;io w tv;us w dy n tv;ap;BETA;GAMMA;DELTA;ep;ZETA;ETA;THETA;io;KAPPA;LAMDA;
     MU;NU;XI;oo;PI;RHO;x SIGMA;SIGMA;TAU;us;PHI;CHI;PSI;om;io w dy;us w dy;oo w tv;us w tv;om w tv
   3CF|gr |c KAI y;BETA y;THETA y;us w ho y;us w ac n ho y;us w de n ho y;PHI y;PI y;KAI y;l ah KOPPA;m l ah KOPPA;
     l STIGMA;m l STIGMA;l DIGAMMA;m l DIGAMMA;l KOPPA;m l KOPPA;l SAMPI;m l SAMPI
   3E2/cx |c;m| l |SHEI;FEI;KHEI;HORI;GANGIA;SHIMA;DEI
   3F0|gr |KAPPA y;RHO y;LUNATE SIGMA y;l YOT;c THETA y;LUNATE ep y;re LUNATE ep y;c l SHO;m l SHO;c LUNATE SIGMA y;
     c l SAN;m l SAN;RHO w st y;c re LUNATE SIGMA y;c dc LUNATE SIGMA y;c re dc LUNATE SIGMA y
   400|cy c l |IE w ga;IO;DJE;GJE;UKRAINIAN IE;DZE;BYELORUSSIAN-UKRAINIAN I;YI;JE;LJE;NJE;TSHE;KJE;I w ga;sr U;DZHE
   410|cy |c l ;m l |A;BE;VE;GHE;DE;IE;ZHE;ZE;I;sr I;KA;EL;EM;EN;O;PE;ER;ES;TE;U;EF;HA;TSE;CHE;sh;SHCHA;HARD s;YERU;
     SOFT s;E;YU;YA
   450|cy m l |IE w ga;IO;DJE;GJE;UKRAINIAN IE;DZE;BYELORUSSIAN-UKRAINIAN I;YI;JE;LJE;NJE;TSHE;KJE;I w ga;sr U;DZHE
   460/cy |c;m| l |om;YAT;if E;lt YUS;if lt YUS;BIG YUS;if BIG YUS;KSI;PSI;FITA;IZHITSA;IZHITSA w d ga ae;UK;
     ROUND om;om w TITLO;OT;KOPPA
   482|cy jk s|
   483|co cy |TITLO;PALATALIZATION;ds PNEUMATA;ps PNEUMATA;POKRYTIE;hu jk s;MILLIONS s
   48A/cy |c;m| l| sr I w tc; SEMISOFT s; ER w TICK; GHE w UPTURN; GHE w st; GHE w mi ho; ZHE w dl; ZE w dl;
      KA w dl; KA w ve st; KA w st; BASHKIR KA; EN w dl;g EN GHE; PE w mi ho; ABKHASIAN HA; ES w dl; TE w dl; sx U;
      sx U w st; HA w dl;g TE TSE; CHE w dl; CHE w ve st; SHHA; ABKHASIAN CHE; ABKHASIAN CHE w dl
   4C0|cy l PALOCHKA|
   4C1/cy |c;m| l |ZHE w be;KA w ho;EL w tc;EN w ho;EN w tc;KHAKASSIAN CHE;EM w tc
   4CF|cy m l PALOCHKA|
   4D0/cy |c;m| l| A w be; A w de;g A IE
   4D6/cy |c;m| l |IE w be;SCHWA;SCHWA w de;ZHE w de;ZE w de;ABKHASIAN DZE;I w mc;I w de;O w de;BARRED O;
     BARRED O w de;E w de;U w mc;U w de;U w d ac;CHE w de;GHE w dl;YERU w de;GHE w st n ho;HA w ho;HA w st
   500/cy |c;m| l KOMI |DE;DJE;ZJE;DZJE;LJE;NJE;SJE;TJE
   510/cy |c;m| l |re ZE;EL w ho;LHA;RHA;YAE;QA;WE;ALEUT KA;EL w mi ho;EN w mi ho;PE w dl;SHHA w dl;EN w e ho;DZZHE;
     DCHE;EL w dl
   531|ik c l |AYB;BEN;GIM;DA;ECH;ZA;EH;ET;TO;ZHE;INI;LIWN;XEH;CA;KEN;HO;JA;GHAD;CHEH;MEN;YI;NOW;sh;VO;ch;PEH;JHEH;
     RA;SEH;VEW;TIWN;REH;CO;YIWN;PIWR;KEH;OH;FEH
   559|ik |mo l e ha rn;gq;EMPHASIS k;ex k;cm;qe k;av k
   560|ik m l |tr AYB;AYB;BEN;GIM;DA;ECH;ZA;EH;ET;TO;ZHE;INI;LIWN;XEH;CA;KEN;HO;JA;GHAD;CHEH;MEN;YI;NOW;sh;VO;ch;
     PEH;JHEH;RA;SEH;VEW;TIWN;REH;CO;YIWN;PIWR;KEH;OH;FEH
   587|ik |m lg ECH YIWN;m l YI w st;fu so;hy
   58D||RIGHT-FACING ik ETERNITY s;LEFT-FACING ik ETERNITY s;ik DRAM s
   591|hw ae |ETNAHTA;SEGOL;SHALSHELET;ZAQEF QATAN;ZAQEF GADOL;TIPEHA;REVIA;ZARQA;PASHTA;YETIV;TEVIR;GERESH;
     GERESH MUQDAM;GERSHAYIM;QARNEY PARA;TELISHA GEDOLA;PAZER;ATNAH HAFUKH;MUNAH;MAHAPAKH;MERKHA;MERKHA KEFULA;DARGA;
     QADMA;TELISHA QETANA;YERAH BEN YOMO;OLE;ILUY;DEHI;ZINOR
   5AF|hw k MASORA ci|
   5B0|hw POINT |SHEVA;HATAF SEGOL;HATAF PATAH;HATAF QAMATS;HIRIQ;TSERE;SEGOL;PATAH;QAMATS;HOLAM;HOLAM HASER fo VAV;
     QUBUTS;dj OR MAPIQ;METEG
   5BE|hw |pu MAQAF;POINT RAFE;pu PASEQ;POINT sk i;POINT SIN i;pu SOF PASUQ;k up i;k lo i;pu nn HAFUKHA;
     POINT QAMATS QATAN
   5D0|hw l |al;BET;gb;DALET;HE;VAV;za;HET;TET;YOD;x KAF;KAF;LAMED;x MEM;MEM;x nn;nn;bb;AYIN;x PE;PE;x TSADI;TSADI;
     QOF;RESH;sk;TAV
   5EF|hw YOD ti|
   5F0|hw lg YIDDISH |d VAV;VAV YOD;d YOD
   5F3|hw pu GER|ESH;SHAYIM
   600|q |nu s;s SANAH;FOOTNOTE MARKER;s SAFHA;s SAMVAT;nu k b
   606||ij CUBE ROOT;ij FOURTH ROOT;q RAY;ij PER MILLE s;ij PER te th s;AFGHANI s
   60C|q |cm;DATE sp;POETIC VERSE s;s MISRA;s SALLALLAHOU ALAYHE WASSALLAM;s ALAYHE ASSALLAM;s RAHMATULLAH ALAYHE;
     s RADI ALLAHOU ANHU;s TAKHALLUS;m hi TAH;m hi lg al w lm w ye;m hi ZAIN;m FATHA;m DAMMA;m KASRA;ee;l k;
     END OF TEXT k;tp i pu k;qe k
   620|q l |KASHMIRI ye;hm;al w MADDA b;al w hm b;WAW w hm b;al w hm g;ye w hm b;al;BEH;TEH MARBUTA;TEH;THEH;je;hh;
     ka;DAL;THAL;REH;ZAIN;sf;sz;SAD;DAD;TAH;ZAH;AIN;gi;KEHEH w t dt b;KEHEH w h dt g
   63D|q l FARSI ye w |iv V;t dt b;h dt b
   640|q TATWEEL|
   641|q l |FEH;QAF;KAF;lm;me;nb;HEH;WAW;al mk;ye
   64B|q |FATHATAN;DAMMATAN;KASRATAN;FATHA;DAMMA;KASRA;SHADDA;SUKUN;MADDAH b;hm b;hm g;jt al;iv DAMMA;k nb GHUNNA;
     ZWARAKAY;vo s m V b;vo s iv m V b;vo s i g;re DAMMA;FATHA w t dt;WAVY hm g
   660|ij di |ze;o;t;h;u;fi;si;se;ei;ni
   66A|q |PERCENT s;DECIMAL sp;jk sp;fi pi sa
   66E|q l |dp BEH;dp QAF;ed al;al WASLA;al w WAVY hm b;al w WAVY hm g;hi hm;hi hm al;hi hm WAW;U w hm b;hi hm ye;
     TTEH;TTEHEH;BEEH;TEH w rn;TEH w h dt b dw;PEH;TEHEH;BEHEH;hh w hm b;hh w t dt ve b;NYEH;DYEH;hh w h dt b;TCHEH;
     TCHEHEH;DDAL;DAL w rn;DAL w i g;DAL w i g n m TAH;DAHAL;DDAHAL;DUL;DAL w h dt b dw;DAL w u dt b;RREH
   692|q l REH w |m V;rn;i g;m V g;i g n i b;t dt b
   698|q l |JEH;REH w u dt b;sf w i g n i b;sf w h dt g;sf w h dt g n h dt b;SAD w t dt g;SAD w h dt b;TAH w h dt b;
     AIN w h dt b;dp FEH;FEH w i MOVED g;FEH w i g;VEH;FEH w h dt g;PEHEH;QAF w i b;QAF w h dt b;KEHEH;SWASH KAF;
     KAF w rn;KAF w i b;NG;KAF w h dt g;GAF;GAF w rn;NGOEH;GAF w t dt g;GUEH;GAF w h dt b;lm w m V;lm w i b;
     lm w h dt b;lm w h dt g;nb w i g;nb GHUNNA;RNOON;nb w rn;nb w h dt b;HEH DOACHASHMEE;TCHEH w i b;HEH w ye b;
     HEH GOAL;HEH GOAL w hm b;TEH MARBUTA GOAL;WAW w rn;KIRGHIZ OE;OE;U;YU;KIRGHIZ YU;WAW w t dt b;VE;FARSI ye;
     ye w tc;ye w m V;WAW w i b;E;ye w h dt g;ye BARREE;ye BARREE w hm b
   6D4|q |fu so;l AE
   6D6|q m hi |lg SAD w lm w al mk;lg QAF w lm w al mk;me in f;lm al;je;h dt;sf
   6DD|q |END OF AYAH;START OF RUB EL HIZB
   6DF|q m |hi ru ze;hi UPRIGHT RECTANGULAR ze;hi dp HEAD OF ka;hi me is f;lw sf;hi MADDA;WAW;ye;hi ye;hi nb
   6E9|q |PLACE OF SAJDAH;EMPTY ce lw so;EMPTY ce hi so;ru hi so w FILLED ce;m lw me;l DAL w iv V;l REH w iv V
   6F0|iz ij di |ze;o;t;h;u;fi;si;se;ei;ni
   6FA|q l |sz w i g;DAD w i g;gi w i g
   6FD|q s SINDHI |ih;POSTPOSITION MEN
   6FF||q l HEH w iv V;dx END OF PARAGRAPH
   701/dx |SUPRALINEAR;SUBLINEAR| |fu so;cd
   705|dx |hr cd;cd SKEWED e;cd SKEWED r;SUPRALINEAR cd SKEWED e;SUBLINEAR cd SKEWED r;CONTRACTION
   70B|dx HARKLEAN |OBELUS;METOBELUS;ASTERISCUS
   70F|dx av k|
   710|dx l |ALAPH;ed ALAPH;BETH;GAMAL;GAMAL GARSHUNI;DALATH;dp DALATH RISH;HE;WAW;ZAIN;HETH;TETH;TETH GARSHUNI;
     YUDH;YUDH HE;KAPH;LAMADH;MIM;nn;SEMKATH;x SEMKATH;E;PE;re PE;az;QAPH;RISH;sk;TAW
   72D|dx l PERSIAN |BHETH;GHAMAL;DHALATH
   730|dx |PTHAHA ;ZQAPHA |b;g;dc
   736|dx RBASA |b;g
   738|dx dc ZLAMA |hr;ANGULAR
   73A|dx HBASA| b; g;-ESASA dc
   73D|dx |ESASA b;ESASA g;RWAHA;FEMININE i;QUSHSHAYA;RUKKAKHA
   743|dx |t ve dt ;h dt ;oq lb |b;g
   749|dx |MUSIC;BARREKH
   74D|dx l hx |ZHAIN;KHAPH;FE
   750|q l BEH w |h dt HORIZONTALLY g;i g n h dt b;h dt po uw g;h dt po uw g n t dt b;t dt g n i b;iv m V g;m V
   757|q l |hh w t dt b;hh w h dt po uw g;DAL w t dt vt g n m TAH;DAL w iv m V g;REH w st;sf w u dt b;AIN w t dt b;
     AIN w h dt po dw b;AIN w t dt vt b;FEH w t dt g;FEH w h dt po uw g;KEHEH w i b;KEHEH w h dt b;
     KEHEH w h dt po uw g;me w i b;me w i g;nb w t dt g;nb w m TAH;nb w m V;lm w ba;REH w t dt vt b;REH w hm b;
     sf w t dt vt b;hh w m q l TAH g;hh w m q l TAH n t dt;sf w m q l TAH n t dt;REH w m q l TAH n t dt;
     hh w m q l TAH b
   773|q l al w iz ij di |t b;h b
   775|q l FARSI ye w iz ij di |t b;h b;u g
   778|q l |WAW w iz ij di ;ye BARREE w iz ij di |t b;h b
   77C|q l |hh w iz ij di u g;sf w iz ij di u b;sf w iv V;KAF w t dt b
   780|THAANA l |HAA;SHAVIYANI;NOONU;RAA;BAA;LHAVIYANI;KAAFU;ALIFU;VAAVU;MEEMU;FAAFU;DHAALU;THAA;LAAMU;GAAFU;
     GNAVIYANI;SEENU;DAVIYANI;ZAVIYANI;TAVIYANI;YAA;PAVIYANI;JAVIYANI;CHAVIYANI;TTAA;HHAA;KHAA;THAALU;ZAA;SHEENU;
     SAADHU;DAADHU;TO;ZO;AINU;GHAINU;QAAFU;WAAVU
   7A6|THAANA |ABAFILI;AABAAFILI;IBIFILI;EEBEEFILI;UBUFILI;OOBOOFILI;EBEFILI;EYBEYFILI;OBOFILI;OABOAFILI;SUKUN;l NAA
   7C0|NKO di |ze;o;t;h;u;fi;si;se;ei;ni
   7CA|NKO l |A;EE;I;E;U;OO;O;DAGBASINNA;N;BA;PA;TA;JA;ch;DA;RA;RRA;SA;GBA;FA;KA;LA;NA WOLOSO;MA;ny;NA;HA;WA;YA;
     ny WOLOSO;JONA JA;JONA ch;JONA RA
   7EB|NKO co |sr hi to;sr lw to;sr rs to;ln DESCENDING to;ln hi to;ln lw to;ln rs to;NASALIZATION k;d i b
   7F4|NKO |hi to gq;lw to gq;y OO DENNEN;y GBAKURUNEN;cm;ex k;LAJANYALAN
   7FD|NKO |DANTAYALAN;DOROME s;TAMAN s
   800|fv l |ALAF;BIT;GAMAN;DALAT;IY;BAA;ZEN;IT;TIT;YUT;KAAF;LABAT;MIM;nn;SINGAAT;IN;FI;TSAADIY;QUF;RISH;SHAN;TAAF
   816|fv |k IN;k IN-ALAF;k OCCLUSION;k dj;mo l EPENTHETIC YUT;k EPENTHETIC YUT
   81C|fv vo s |ln E;E;OVERLONG AA;ln AA;AA;OVERLONG A;ln A;A
   824|fv |mo l sr A;vo s sr A;vo s ln U;vo s U;mo l I;vo s ln I;vo s I;vo s O;vo s SUKUN;k NEQUDAA
   830|fv pu |NEQUDAA;AFSAAQ;ANGED;BAU;ATMAAU;SHIYYAALAA
   836|fv av k|
   837|fv pu |MELODIC QITSA;ZIQAA;QITSA;ZAEF;TURU;ARKAANU;SOF MASHFAAT;ANNAAU
   840|MANDAIC l |HALQA;AB;AG;AD;AH;USHENNA;AZ;IT;ATT;AKSA;AK;AL;AM;AN;AS;IN;AP;ASZ;AQ;AR;as;AT;DUSHENNA;KAD;AIN
   859|MANDAIC |AFFRICATION k;VOCALIZATION k;GEMINATION k
   85E|MANDAIC pu|
   860|dx l mm |ng;JA;ny;tt;na;NNNA;bh;RA;LLA;LLLA;SSA
   870|q l al w |bk FATHA;bk tg r FATHA;r mi st;e mi st;bk KASRA;bk bt r KASRA;bk ROUND i b;bk r ROUND i;
     bk e ROUND i;bk ROUND i g;i b;bk tg r FATHA n i b;r mi st n i b;bk bt r KASRA n i b;bk tg r FATHA n e rn;
     r mi st n e rn;bk bt r KASRA n e rn;bk r hm;bk e hm
   883|q TATWEEL w OVERSTRUCK |hm;WAW
   885|q |TATWEEL w t dt g;l THIN ye;BASELINE ROUND i;ra ROUND i;l nb w iv m V;l hh w iv m V g;l TAH w i g;
     l TAH w h dt g;l KEHEH w t dt vt g;ve tc
   890|q P|OUND k b;IASTRE k b
   898|q m hi WORD AL-JUZ|
   899|q m lw WORD |ISHMAAM;IMAALA;TASHEEL
   89C|q |MADDA WAAJIB;ed al MOKHASSAS;DOUBLED MADDA;ha MADDA ov MADDA
   8A0|q l |BEH w m V g;BEH w hm b;je w t dt b;TAH w t dt b;FEH w i g n h dt b;QAF w i g;lm w d ba;me w h dt b;
     ye w t dt g n hm b;ye w t dt g n i b;REH w LOOP;WAW w i WITHIN;ROHINGYA ye;lw al;DAL w h dt g;SAD w h dt g;
     GAF w iv st;sx WAW;ZAIN w iv V b;AIN w h dt g;KAF w i g;QAF w i g n NO dt b;BEH w m me b;PEH w m me b;
     TEH w m TEH b;REH w m nb b;ye w t dt g n m nb b;AFRICAN FEH;AFRICAN QAF;AFRICAN nb;PEH w m V;TEH w m V;
     TTEH w m V;TCHEH w m V;KEHEH w m V;gi w h dt b;AFRICAN QAF w h dt b;je w h dt b;je w h dt g;lm w m q l TAH b;GRAF
   8C9|q m |FARSI ye;hi FARSI ye;hi ye BARREE w t dt g;hi WORD SAH;hi ZAH
   8CE|q la ROUND i |b;g
   8D0|q |SUKUN g;la ci g;la ROUND i ii ci g;m lw WAW
   8D4|q m hi |WORD AR-RUB;SAD;AIN;QAF;nb w KASRA
   8D9|q m lw nb w KASRA|
   8DA|q m hi WORD |ATH-THALATHA;AS-SAJDA;AN-NISF;SAKTA;QIF;WAQFA
   8E0|q |m hi FOOTNOTE MARKER;m hi s SAFHA;DISPUTED END OF AYAH;tr DAMMA g
   8E4|q cq |FATHA;DAMMA;KASRA;FATHATAN;DAMMATAN;KASRATAN
   8EA|q to |o i b;t dt b;LOOP b;o i g;t dt g;LOOP g
   8F0|q |op FATHATAN;op DAMMATAN;op KASRATAN;m hi WAW;FATHA w rn;FATHA w i b;KASRA w i g
   8F7/q |e;r| ar |b;g
   8FB|q d r ar b|; w i
   8FD|q |r ar b w i;DAMMA w i;k jh nb GHUNNA"

end FloScript.Text.CharName
