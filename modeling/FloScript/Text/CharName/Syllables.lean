/-! Names of characters from 0900 to 1FFF: scripts of South and East Asia, of Africa and America. -/
namespace FloScript.Text.CharName

/-- Rows of a table of abbreviated names. -/
def syllables : String :=
  "900|dv s |iv ca;ca;au;vs
   904|dv l |sr A;A;AA;I;II;U;UU;vc R;vc L;bm E;sr E;E;AI;bm O;sr O;O;AU;KA;kh;GA;gh;ng;CA;ch;JA;JHA;ny;tt;td;dd;db;
     na;TA;tb;DA;dh;NA;NNNA;PA;ph;BA;bh;MA;YA;RA;RRA;LA;LLA;LLLA;VA;sh;SSA;SA;HA
   93A|dv |vo s OE;vo s OOE;s nk;s ay
   93E|dv vo s |AA;I;II;U;UU;vc R;vc RR;bm E;sr E;E;AI;bm O;sr O;O;AU
   94D|dv |s vi;vo s PRISHTHAMATRA E;vo s AW;OM;STRESS s UDATTA;STRESS s ANUDATTA;ga ae;ac ae
   955|dv vo s |bm ln E;UE;UUE
   958|dv l |QA;KHHA;GHHA;ZA;DDDHA;RHA;FA;YYA;vc RR;vc LL
   962|dv vo s vc L|;L
   964|dv d|n; dn
   966|dv di |ze;o;t;h;u;fi;si;se;ei;ni
   970|dv |av s;s hi SPACING i
   972|dv l |bm A;OE;OOE;AW;UE;UUE;MARWARI dd;ZHA;he YA;GGA;JJA;gl so;DDDA;BBA
   980|bg |ANJI;s ca;s au;s vs
   985|bg l |A;AA;I;II;U;UU;vc R;vc L
   98F|bg l |E;AI
   993|bg l |O;AU;KA;kh;GA;gh;ng;CA;ch;JA;JHA;ny;tt;td;dd;db;na;TA;tb;DA;dh;NA
   9AA|bg l |PA;ph;BA;bh;MA;YA;RA
   9B2|bg l LA|
   9B6|bg l |sh;SSA;SA;HA
   9BC|bg s |nk;ay
   9BE|bg vo s |AA;I;II;U;UU;vc R;vc RR
   9C7|bg vo s |E;AI
   9CB|bg |vo s O;vo s AU;s vi;l KHANDA TA
   9D7|bg AU lh k|
   9DC|bg l R|RA;HA
   9DF|bg l |YYA;vc RR;vc LL
   9E2|bg vo s vc L|;L
   9E6|bg di |ze;o;t;h;u;fi;si;se;ei;ni
   9F0|bg l RA w |mi da;lo da
   9F2|bg RUPEE |k;s
   9F4|bg CURRENCY NUMERATOR |o;t;h;u;o LESS THAN tf DENOMINATOR
   9F9|bg |CURRENCY DENOMINATOR hv;ISSHAR;GANDA k;l VEDIC au;av s;SANDHI k
   A01|gm s |ADAK BINDI;BINDI;vs
   A05|gm l |A;AA;I;II;U;UU
   A0F|gm l |EE;AI
   A13|gm l |OO;AU;KA;kh;GA;gh;ng;CA;ch;JA;JHA;ny;tt;td;dd;db;na;TA;tb;DA;dh;NA
   A2A|gm l |PA;ph;BA;bh;MA;YA;RA
   A32|gm l L|A;LA
   A35|gm l |VA;sh
   A38|gm l |SA;HA
   A3C|gm s nk|
   A3E|gm vo s |AA;I;II;U;UU
   A47|gm vo s |EE;AI
   A4B|gm |vo s OO;vo s AU;s vi
   A51|gm s UDAAT|
   A59|gm l |KHHA;GHHA;ZA;RRA
   A5E|gm l FA|
   A66|gm di |ze;o;t;h;u;fi;si;se;ei;ni
   A70|gm |TIPPI;ADDAK;IRI;URA;EK ONKAR;s YAKASH;av s
   A81|gj s |ca;au;vs
   A85|gj l |A;AA;I;II;U;UU;vc R;vc L
   A8D|gj vo bm E|
   A8F|gj |l E;l AI;vo bm O
   A93|gj l |O;AU;KA;kh;GA;gh;ng;CA;ch;JA;JHA;ny;tt;td;dd;db;na;TA;tb;DA;dh;NA
   AAA|gj l |PA;ph;BA;bh;MA;YA;RA
   AB2|gj l L|A;LA
   AB5|gj l |VA;sh;SSA;SA;HA
   ABC|gj s |nk;ay
   ABE|gj vo s |AA;I;II;U;UU;vc R;vc RR;bm E
   AC7|gj vo s |E;AI;bm O
   ACB|gj |vo s O;vo s AU;s vi
   AD0|gj OM|
   AE0|gj l vc |RR;LL
   AE2|gj vo s vc L|;L
   AE6|gj di |ze;o;t;h;u;fi;si;se;ei;ni
   AF0|gj |av s;RUPEE s
   AF9|gj l ZHA|
   AFA|gj s |SUKUN;SHADDA;MADDAH;THREE-DOT nk b;ci nk b;TWO-CIRCLE nk b
   B01|oi s |ca;au;vs
   B05|oi l |A;AA;I;II;U;UU;vc R;vc L
   B0F|oi l |E;AI
   B13|oi l |O;AU;KA;kh;GA;gh;ng;CA;ch;JA;JHA;ny;tt;td;dd;db;na;TA;tb;DA;dh;NA
   B2A|oi l |PA;ph;BA;bh;MA;YA;RA
   B32|oi l L|A;LA
   B35|oi l |VA;sh;SSA;SA;HA
   B3C|oi s |nk;ay
   B3E|oi vo s |AA;I;II;U;UU;vc R;vc RR
   B47|oi vo s |E;AI
   B4B|oi |vo s O;vo s AU;s vi
   B55|oi |s on;AI lh k;AU lh k
   B5C|oi l R|RA;HA
   B5F|oi l |YYA;vc RR;vc LL
   B62|oi vo s vc L|;L
   B66|oi di |ze;o;t;h;u;fi;si;se;ei;ni
   B70|oi |ISSHAR;l WA
   B72|oi fc |o qu;o ha;h qr;o SIXTEENTH;o eh;h SIXTEENTHS
   B82|tm s |au;vs
   B85|tm l |A;AA;I;II;U;UU
   B8E|tm l |E;EE;AI
   B92|tm l |O;OO;AU;KA
   B99|tm l |ng;CA
   B9C|tm l JA|
   B9E|tm l |ny;tt
   BA3|tm l |na;TA
   BA8|tm l |NA;NNNA;PA
   BAE|tm l |MA;YA;RA;RRA;LA;LLA;LLLA;VA;sh;SSA;SA;HA
   BBE|tm vo s |AA;I;II;U;UU
   BC6|tm vo s |E;EE;AI
   BCA|tm vo s |O;OO;AU
   BCD|tm s vi|
   BD0|tm OM|
   BD7|tm AU lh k|
   BE6|tm di |ze;o;t;h;u;fi;si;se;ei;ni
   BF0|tm |nu te;nu o hu;nu o th;DAY s;MONTH s;YEAR s;DEBIT s;CREDIT s;AS b s;RUPEE s;nu s
   C00|ts s |co ca b;ca;au;vs;co au b
   C05|ts l |A;AA;I;II;U;UU;vc R;vc L
   C0E|ts l |E;EE;AI
   C12|ts l |O;OO;AU;KA;kh;GA;gh;ng;CA;ch;JA;JHA;ny;tt;td;dd;db;na;TA;tb;DA;dh;NA
   C2A|ts l |PA;ph;BA;bh;MA;YA;RA;RRA;LA;LLA;LLLA;VA;sh;SSA;SA;HA
   C3C|ts s |nk;ay
   C3E|ts vo s |AA;I;II;U;UU;vc R;vc RR
   C46|ts vo s |E;EE;AI
   C4A|ts vo s |O;OO;AU
   C4D|ts s vi|
   C55|ts |lh k;AI lh k
   C58|ts l |TSA;DZA;RRRA
   C5D|ts l NAKAARA POLLU|
   C60|ts l vc |RR;LL
   C62|ts vo s vc L|;L
   C66|ts di |ze;o;t;h;u;fi;si;se;ei;ni
   C77|ts s ad|
   C78|ts fc di |ze fo ODD POWERS OF u;o fo ODD POWERS OF u;t fo ODD POWERS OF u;h fo ODD POWERS OF u;
     o fo EVEN POWERS OF u;t fo EVEN POWERS OF u;h fo EVEN POWERS OF u
   C7F|ts s TUUMU|
   C80|kd s |SPACING ca;ca;au;vs;ad
   C85|kd l |A;AA;I;II;U;UU;vc R;vc L
   C8E|kd l |E;EE;AI
   C92|kd l |O;OO;AU;KA;kh;GA;gh;ng;CA;ch;JA;JHA;ny;tt;td;dd;db;na;TA;tb;DA;dh;NA
   CAA|kd l |PA;ph;BA;bh;MA;YA;RA;RRA;LA;LLA
   CB5|kd l |VA;sh;SSA;SA;HA
   CBC|kd s |nk;ay
   CBE|kd vo s |AA;I;II;U;UU;vc R;vc RR
   CC6|kd vo s |E;EE;AI
   CCA|kd vo s |O;OO;AU
   CCD|kd s vi|
   CD5|kd |lh k;AI lh k
   CDD|kd l |NAKAARA POLLU;FA
   CE0|kd l vc |RR;LL
   CE2|kd vo s vc L|;L
   CE6|kd di |ze;o;t;h;u;fi;si;se;ei;ni
   CF1|kd s |jy;ua
   D00|mm s |co au b;ca;au;vs
   D04|mm l |VEDIC au;A;AA;I;II;U;UU;vc R;vc L
   D0E|mm l |E;EE;AI
   D12|mm l |O;OO;AU;KA;kh;GA;gh;ng;CA;ch;JA;JHA;ny;tt;td;dd;db;na;TA;tb;DA;dh;NA;NNNA;PA;ph;BA;bh;MA;YA;RA;RRA;LA;
     LLA;LLLA;VA;sh;SSA;SA;HA;TTTA
   D3B|mm s |ve ba vi;CIRCULAR vi;ay
   D3E|mm vo s |AA;I;II;U;UU;vc R;vc RR
   D46|mm vo s |E;EE;AI
   D4A|mm vo s |O;OO;AU
   D4D|mm |s vi;l i REPH;s PARA
   D54|mm l CHILLU |M;Y;LLL
   D57|mm AU lh k|
   D58|mm fc |o ONE-HUNDRED-AND-SIXTIETH;o FORTIETH;h EIGHTIETHS;o TWENTIETH;o TENTH;h TWENTIETHS;o FIFTH
   D5F|mm l |ah II;vc RR;vc LL
   D62|mm vo s vc L|;L
   D66|mm di |ze;o;t;h;u;fi;si;se;ei;ni
   D70|mm nu |te;o hu;o th
   D73|mm fc |o qu;o ha;h qr;o SIXTEENTH;o eh;h SIXTEENTHS
   D79|mm DATE k|
   D7A|mm l CHILLU |NN;N;RR;L;LL;K
   D81|bd s |ca;ANUSVARAYA;VISARGAYA
   D85|bd l |AYANNA;AAYANNA;AEYANNA;AEEYANNA;IYANNA;IIYANNA
   D8B|bd l |U;IRU;ILU|YANNA;UYANNA
   D91|bd l |EYANNA;EEYANNA;AIYANNA;OYANNA;OOYANNA;AUYANNA
   D9A/bd l |gp;mh| |KAYANNA;GAYANNA
   D9E|bd l |KANTAJA NAASIKYAYA;SANYAKA GAYANNA;gp CAYANNA;mh CAYANNA;gp JAYANNA;mh JAYANNA;TAALUJA NAASIKYAYA;
     TAALUJA SANYOOGA NAAKSIKYAYA;SANYAKA JAYANNA
   DA7/bd l |gp;mh| |TTAYANNA;DDAYANNA
   DAB|bd l |MUURDHAJA NAYANNA;SANYAKA DDAYANNA;gp TAYANNA;mh TAYANNA;gp DAYANNA;mh DAYANNA;DANTAJA NAYANNA
   DB3|bd l |SANYAKA DAYANNA;gp PAYANNA;mh PAYANNA;gp BAYANNA;mh BAYANNA;MAYANNA;AMBA BAYANNA;YAYANNA;RAYANNA
   DBD|bd l DANTAJA LAYANNA|
   DC0|bd l |VAYANNA;TAALUJA SAYANNA;MUURDHAJA SAYANNA;DANTAJA SAYANNA;HAYANNA;MUURDHAJA LAYANNA;FAYANNA
   DCA|bd s AL-LAKUNA|
   DCF|bd vo s AELA-PILLA|
   DD0/bd vo s |KETTI;DIGA| |AEDA-PILLA;IS-PILLA
   DD4|bd vo s KETTI PAA-PILLA|
   DD6|bd vo s DIGA PAA-PILLA|
   DD8|bd vo s |GAETTA-PILLA;KOMBUVA;DIGA KOMBUVA;KOMBU DEKA;KOMBUVA HAA AELA-PILLA;KOMBUVA HAA DIGA AELA-PILLA;
     KOMBUVA HAA GAYANUKITTA;GAYANUKITTA
   DE6|bd LITH di |ze;o;t;h;u;fi;si;se;ei;ni
   DF2|bd vo s DIGA GA|ETTA-PILLA;YANUKITTA
   DF4|bd pu KUNDDALIYA|
   E01|THAI gv |KO KAI;KHO KHAI;KHO KHUAT;KHO KHWAI;KHO KHON;KHO RAKHANG;NGO NGU;CHO CHAN;CHO CHING;CHO CHANG;SO SO;
     CHO CHOE;YO YING;DO CHADA;TO PATAK;THO THAN;THO NANGMONTHO;THO PHUTHAO;NO NEN;DO DEK;TO TAO;THO THUNG;THO THAHAN;
     THO THONG;NO NU;BO BAIMAI;PO PLA;PHO PHUNG;FO FA;PHO PHAN;FO FAN;PHO SAMPHAO;MO MA;YO YAK;RO RUA;RU;LO LING;LU;
     WO WAEN;SO SALA;SO RUSI;SO SUA;HO HIP;LO CHULA;O ANG;HO NOKHUK;PAIYANNOI;SARA A;MAI HAN-AKAT
   E32|THAI gv SARA |AA;AM;I;II;UE;UEE;U;UU
   E3A|THAI gv PHINTHU|
   E3F|THAI CURRENCY y BAHT|
   E40|THAI gv SARA |E;AE;O;AI MAIMUAN;AI MAIMALAI
   E45|THAI gv |LAKKHANGYAO;MAIYAMOK;MAITAIKHU;MAI EK;MAI THO;MAI TRI;MAI CHATTAWA;THANTHAKHAT;NIKHAHIT;YAMAKKAN;
     FONGMAN
   E50|THAI di |ze;o;t;h;u;fi;si;se;ei;ni
   E5A|THAI gv |ANGKHANKHU;KHOMUT
   E81|LAO l K|O;HO SUNG
   E84|LAO l KHO TAM|
   E86|LAO l |PALI gh;NGO;CO;PALI ch;SO TAM
   E8C|LAO l |PALI JHA;NYO
   E8E|LAO l PALI |ny;tt;td;dd;db;na
   E94|LAO l |DO;TO;THO SUNG;THO TAM;PALI dh;NO;BO;PO;PHO SUNG;FO TAM;PHO TAM;FO SUNG;PALI bh;MO;YO;LO LING
   EA5|LAO l LO LOOT|
   EA7|LAO l |WO;SANSKRIT sh;SANSKRIT SSA;SO SUNG;HO SUNG;PALI LLA;O;HO TAM
   EAF|LAO iy|
   EB0|LAO vo s |A;MAI KAN;AA;AM;I;II;Y;YY;U;UU
   EBA|LAO |s PALI vi;vo s MAI KON
   EBC|LAO SEMIVOWEL s |LO;NYO
   EC0|LAO vo s |E;EI;O;AY;AI
   EC6|LAO KO LA|
   EC8|LAO to MAI |EK;THO;TI;CATAWA
   ECC|LAO |CANCELLATION k;NIGGAHITA
   ED0|LAO di |ze;o;t;h;u;fi;si;se;ei;ni
   EDC|LAO HO |NO;MO
   EDE|LAO l KHMU |GO;NYO
   F00|tj sy OM|
   F01|tj k GTER YIG MGO |TRUNCATED A;-UM RNAM BCAD MA;-UM GTER TSHEG MA
   F04|tj k |in YIG MGO MDUN MA;CLOSING YIG MGO SGAB MA;CARET YIG MGO PHUR SHAD MA;YIG MGO TSHEG SHAD MA;SBRUL SHAD;
     BSKUR YIG MGO;BKA- SHOG YIG MGO;INTERSYLLABIC TSHEG;DELIMITER TSHEG BSTAR;SHAD;NYIS SHAD;TSHEG SHAD;
     NYIS TSHEG SHAD;RIN CHEN SPUNGS SHAD;RGYA GRAM SHAD;CARET -DZUD RTAGS ME ln CAN;GTER TSHEG
   F15|tj LOGOTYPE s |CHAD RTAGS;LHAG RTAGS
   F17|tj ASTROLOGICAL s |SGRA GCAN -CHAR RTAGS;-KHYUD PA;SDONG TSHUGS
   F1A|tj s RDEL |DKAR GCIG;DKAR GNYIS;DKAR GSUM;NAG GCIG;NAG GNYIS;DKAR RDEL NAG
   F20|tj di ze|
   F21|tj di |;ha |o;t;h;u;fi;si;se;ei;ni
   F33|tj di ha ze|
   F34|tj k |BSDUS RTAGS;NGAS BZUNG NYI ZLA;CARET -DZUD RTAGS BZHI MIG CAN;NGAS BZUNG SGOR RTAGS;CHE MGO;TSA -PHRU
   F3A|tj k |GUG RTAGS GY;ANG KHANG GY|ON;AS
   F3E|tj s |YAR TSHES;MAR TSHES
   F40|tj l |KA;kh;GA;gh;ng;CA;ch;JA
   F49|tj l |ny;tt;td;dd;db;na;TA;tb;DA;dh;NA;PA;ph;BA;bh;MA;TSA;TSHA;DZA;DZHA;WA;ZHA;ZA;-A;YA;RA;LA;sh;SSA;SA;HA;A;
     KSSA;FIXED-FORM RA;KKA;RRA
   F71|tj vo s |AA;I;II;U;UU;vc R;vc RR;vc L;vc LL;E;EE;O;OO
   F7E|tj |s RJES SU ng RO;s RNAM BCAD;vo s re I;vo s re II;s NYI ZLA NAA DA;s SNA LDAN;k HALANTA;k PALUTA
   F86|tj s |LCI RTAGS;YANG RTAGS;LCE TSA CAN;MCHU CAN;GRU CAN RGYINGS;GRU MED RGYINGS;iv MCHU CAN
   F8D|tj ig s |LCE TSA CAN;MCHU CAN;iv MCHU CAN
   F90|tj ig l |KA;kh;GA;gh;ng;CA;ch;JA
   F99|tj ig l |ny;tt;td;dd;db;na;TA;tb;DA;dh;NA;PA;ph;BA;bh;MA;TSA;TSHA;DZA;DZHA;WA;ZHA;ZA;-A;YA;RA;LA;sh;SSA;SA;
     HA;A;KSSA
   FBA|tj ig l FIXED-FORM |WA;YA;RA
   FBE|tj KU RU kh|; BZHI MIG CAN
   FC0|tj CANTILLATION s |he BEAT;li BEAT;CANG TE-U;SBUB -CHAL
   FC4|tj y |DRIL BU;RDO RJE;PADMA GDAN;RDO RJE RGYA GRAM;PHUR PA
   FC9|tj y NOR BU|; NYIS -KHYIL; GSUM -KHYIL; BZHI -KHYIL
   FCE|tj s RDEL NAG |RDEL DKAR;GSUM
   FD0|tj k |BSKA- SHOG GI MGO RGYAN;MNYAM YIG GI MGO RGYAN;NYIS TSHEG;in BRDA RNYING YIG MGO MDUN MA;
     CLOSING BRDA RNYING YIG MGO SGAB MA
   FD5/|RIGHT-FACING;LEFT-FACING| SVASTI s|; w dt
   FD9|tj k |LEADING MCHAN RTAGS;TRAILING MCHAN RTAGS
   1000|my l |KA;kh;GA;gh;ng;CA;ch;JA;JHA;ny;NNYA;tt;td;dd;db;na;TA;tb;DA;dh;NA;PA;ph;BA;bh;MA;YA;RA;LA;WA;SA;HA;
     LLA;A;SHAN A;I;II;U;UU;E;MON E;O;AU
   102B|my vo s |TALL AA;AA;I;II;U;UU;E;AI;MON II;MON O;E b
   1036|my s |au;i g;vs;vi;ASAT
   103B|my ct s ml |YA;RA;WA;HA
   103F|my l GREAT SA|
   1040|my di |ze;o;t;h;u;fi;si;se;ei;ni
   104A|my |s lt sj;s sj;y LOCATIVE;y COMPLETED;y AFOREMENTIONED;y GENITIVE;l sh;l SSA
   1052|my |l vc ;vo s vc |R;RR;L;LL
   105A|my l MON |ng;JHA;BBA;BBE
   105E|my ct s MON ml |NA;MA;LA
   1061|my |l SGAW KAREN sh;vo s SGAW KAREN EU
   1063|my to k SGAW KAREN |HATHI;KE PHO
   1065|my l WESTERN PWO KAREN |tb;PWA
   1067|my vo s WESTERN PWO KAREN |EU;UE
   1069|my s WESTERN PWO KAREN TONE-|1;2;3;4;5
   106E|my l EASTERN PWO KAREN |na;YWA;GHWA
   1071|my vo s |GEBA KAREN I;KAYAH OE;KAYAH U;KAYAH EE
   1075|my l SHAN |KA;kh;GA;CA;ZA;ny;DA;NA;ph;FA;BA;tb;HA
   1082|my ct s SHAN ml WA|
   1083|my vo s SHAN |AA;E;E b;x Y
   1087|my s SHAN TONE-|2;3;5;6
   108B|my s SHAN COUNCIL |TONE-2;TONE-3;EMPHATIC to
   108E|my |l RUMAI PALAUNG FA;s RUMAI PALAUNG TONE-5
   1090|my SHAN di |ze;o;t;h;u;fi;si;se;ei;ni
   109A|my s KHAMTI TONE-|1;3
   109C|my vo s AITON A|;I
   109E|my y SHAN |o;ex
   10A0|gg c l |AN;BAN;GAN;DON;EN;VIN;ZEN;TAN;IN;KAN;LAS;MAN;NAR;ON;PAR;ZHAR;RAE;SAN;TAR;UN;PHAR;KHAR;GHAN;QAR;sk;
     CHIN;CAN;JIL;CIL;CHAR;XAN;JHAN;HAE;HE;HIE;WE;HAR;HOE
   10C7|gg c l YN|
   10CD|gg c l AEN|
   10D0|gg l |AN;BAN;GAN;DON;EN;VIN;ZEN;TAN;IN;KAN;LAS;MAN;NAR;ON;PAR;ZHAR;RAE;SAN;TAR;UN;PHAR;KHAR;GHAN;QAR;sk;
     CHIN;CAN;JIL;CIL;CHAR;XAN;JHAN;HAE;HE;HIE;WE;HAR;HOE;FI;YN;ELIFI;tr GAN;AIN
   10FB||gg PARAGRAPH sp;mo l gg NAR
   10FD|gg l |AEN;HARD s;LABIAL s
   1100|hl gx |ki;SSANGKIYEOK;NIEUN;fj;SSANGTIKEUT;RIEUL;MIEUM;PIEUP;jz;SIOS;ji;IEUNG;CIEUC;SSANGCIEUC;eo;ke;gf;pp;
     HIEUH;NIEUN-KIYEOK;SSANGNIEUN;NIEUN-TIKEUT;NIEUN-PIEUP;TIKEUT-KIYEOK;RIEUL-NIEUN;SSANGRIEUL;RIEUL-HIEUH;
     KAPYEOUNRIEUL;MIEUM-PIEUP;KAPYEOUNMIEUM
   111E|hl gx PIEUP-|KIYEOK;NIEUN;TIKEUT;SIOS;SIOS-KIYEOK;SIOS-TIKEUT;SIOS-PIEUP;SSANGSIOS;SIOS-CIEUC;CIEUC;CHIEUCH;
     THIEUTH;PHIEUPH
   112B|hl gx KAPYEOUN|PIEUP;SSANGPIEUP
   112D|hl gx SIOS-|KIYEOK;NIEUN;TIKEUT;RIEUL;MIEUM;PIEUP;PIEUP-KIYEOK;SSANGSIOS;IEUNG;CIEUC;CHIEUCH;KHIEUKH;
     THIEUTH;PHIEUPH;HIEUH
   113C|hl gx C|HITUEUMS;EONGCHIEUMS|IOS;SANGSIOS
   1140|hl gx PANSIOS|
   1141|hl gx IEUNG-|KIYEOK;TIKEUT;MIEUM;PIEUP;SIOS;PANSIOS
   1147|hl gx |SSANGIEUNG;IEUNG-CIEUC;IEUNG-CHIEUCH;IEUNG-THIEUTH;IEUNG-PHIEUPH;YESIEUNG;CIEUC-IEUNG
   114E|hl gx C|HITUEUM;EONGCHIEUM|CIEUC;SSANGCIEUC
   1152|hl gx |CHIEUCH-KHIEUKH;CHIEUCH-HIEUH;CHITUEUMCHIEUCH;CEONGCHIEUMCHIEUCH;PHIEUPH-PIEUP;KAPYEOUNPHIEUPH;
     SSANGHIEUH;YEORINHIEUH;KIYEOK-TIKEUT;NIEUN-SIOS;NIEUN-CIEUC;NIEUN-HIEUH;TIKEUT-RIEUL;FILLER
   1160|hl JUNGSEONG |FILLER;A;AE;YA;YAE;EO;E;YEO;YE;O;WA;WAE;OE;YO;U;WEO;WE;WI;YU;EU;YI;I;A-O;A-U;YA-O;YA-YO;EO-O;
     EO-U;EO-EU;YEO-O;YEO-U;O-EO;O-E;O-YE;O-O;O-U;YO-YA;YO-YAE;YO-YEO;YO-O;YO-I;U-A;U-AE;U-EO-EU;U-YE;U-U;YU-A;YU-EO;
     YU-E;YU-YEO;YU-YE;YU-U;YU-I;EU-U;EU-EU;YI-U;I-A;I-YA;I-O;I-U;I-EU;I-ARAEA;ARAEA;ARAEA-EO;ARAEA-U;ARAEA-I;
     SSANGARAEA;A-EU;YA-U;YEO-YA;O-YA;O-YAE
   11A8|hl JONGSEONG |ki;SSANGKIYEOK;KIYEOK-SIOS;NIEUN;NIEUN-CIEUC;NIEUN-HIEUH;fj;RIEUL;RIEUL-KIYEOK;RIEUL-MIEUM;
     RIEUL-PIEUP;RIEUL-SIOS;RIEUL-THIEUTH;RIEUL-PHIEUPH;RIEUL-HIEUH;MIEUM;PIEUP;PIEUP-SIOS;SIOS;ji;IEUNG;CIEUC;eo;ke;
     gf;pp;HIEUH;KIYEOK-RIEUL;KIYEOK-SIOS-KIYEOK;NIEUN-KIYEOK;NIEUN-TIKEUT;NIEUN-SIOS;NIEUN-PANSIOS;NIEUN-THIEUTH;
     TIKEUT-KIYEOK;TIKEUT-RIEUL;RIEUL-KIYEOK-SIOS;RIEUL-NIEUN;RIEUL-TIKEUT;RIEUL-TIKEUT-HIEUH;SSANGRIEUL
   11D1|hl JONGSEONG RIEUL-|MIEUM-KIYEOK;MIEUM-SIOS;PIEUP-SIOS;PIEUP-HIEUH;KAPYEOUNPIEUP;SSANGSIOS;PANSIOS;KHIEUKH;
     YEORINHIEUH
   11DA|hl JONGSEONG MIEUM-|KIYEOK;RIEUL;PIEUP;SIOS;SSANGSIOS;PANSIOS;CHIEUCH;HIEUH
   11E2|hl JONGSEONG |KAPYEOUNMIEUM;PIEUP-RIEUL;PIEUP-PHIEUPH;PIEUP-HIEUH;KAPYEOUNPIEUP;SIOS-KIYEOK;SIOS-TIKEUT;
     SIOS-RIEUL;SIOS-PIEUP;PANSIOS;IEUNG-KIYEOK;IEUNG-SSANGKIYEOK;SSANGIEUNG;IEUNG-KHIEUKH;YESIEUNG;YESIEUNG-SIOS;
     YESIEUNG-PANSIOS;PHIEUPH-PIEUP;KAPYEOUNPHIEUPH;HIEUH-NIEUN;HIEUH-RIEUL;HIEUH-MIEUM;HIEUH-PIEUP;YEORINHIEUH;
     KIYEOK-NIEUN;KIYEOK-PIEUP;KIYEOK-CHIEUCH;KIYEOK-KHIEUKH;KIYEOK-HIEUH;SSANGNIEUN
   1200|et sy H|A;U;I;AA;EE;E;O;OA
   1208|et sy |L;HH;M;SZ;R;S|A;U;I;AA;EE;E;O;WA
   1238|et sy |sh;SHU;SHI;SHAA;SHEE;SHE;SHO;SHWA;QA;QU;QI;QAA;QEE;QE;QO;QOA;QWA
   124A|et sy QW|I;AA;EE;E
   1250|et sy QH|A;U;I;AA;EE;E;O
   1258|et sy QHWA|
   125A|et sy QHW|I;AA;EE;E
   1260|et sy |B;V;T;C|A;U;I;AA;EE;E;O;WA
   1280|et sy X|A;U;I;AA;EE;E;O;OA;WA
   128A|et sy XW|I;AA;EE;E
   1290|et sy |NA;NU;NI;NAA;NEE;NE;NO;NWA;ny;NYU;NYI;NYAA;NYEE;NYE;NYO;NYWA
   12A0|et sy gl |A;U;I;AA;EE;E;O;WA
   12A8|et sy K|A;U;I;AA;EE;E;O;OA;WA
   12B2|et sy KW|I;AA;EE;E
   12B8|et sy KX|A;U;I;AA;EE;E;O
   12C0|et sy KXWA|
   12C2|et sy KXW|I;AA;EE;E
   12C8|et sy W|A;U;I;AA;EE;E;O;OA
   12D0|et sy PHARYNGEAL |A;U;I;AA;EE;E;O
   12D8|et sy Z|;H|A;U;I;AA;EE;E;O;WA
   12E8|et sy |YA;YU;YI;YAA;YEE;YE;YO;YOA;DA;DU;DI;DAA;DEE;DE;DO;DWA;dd;DDU;DDI;DDAA;DDEE;DDE;DDO;DDWA;JA;JU;JI;JAA;
     JEE;JE;JO;JWA;GA;GU;GI;GAA;GEE;GE;GO;GOA;GWA
   1312|et sy GW|I;AA;EE;E
   1318|et sy GG|A;U;I;AA;EE;E;O;WAA
   1320|et sy |tb;THU;THI;THAA;THEE;tf;THO;THWA;ch;CHU;CHI;CHAA;CHEE;CHE;CHO;CHWA;ph;PHU;PHI;PHAA;PHEE;PHE;PHO;PHWA
   1338|et sy TS|A;U;I;AA;EE;E;O;WA
   1340|et sy TZ|A;U;I;AA;EE;E;O;OA
   1348|et sy |F;P|A;U;I;AA;EE;E;O;WA
   1358|et sy |RYA;MYA;FYA
   135D|et |co GEMINATION n vo lh k;co vo lh k;co GEMINATION k;sj k;WORDSPACE;fu so;cm;ee;cd;PREFACE cd;qe k;
     PARAGRAPH sp
   1369|et di |o;t;h;u;fi;si;se;ei;ni
   1372|et nu |te;tw;ty;ft;ff;aw;sv;ey;ne;hu;te th
   1380|et sy |SEBATBEIT MWA;MWI;MWEE;MWE;SEBATBEIT BWA;BWI;BWEE;BWE;SEBATBEIT FWA;FWI;FWEE;FWE;SEBATBEIT PWA;PWI;
     PWEE;PWE
   1390|et TONAL k |YIZET;DERET;RIKRIK;sr RIKRIK;DIFAT;KENAT;CHIRET;HIDET;DERET-HIDET;KURT
   13A0|CHEROKEE l |A;E;I;O;U;V;GA;KA;GE;GI;GO;GU;GV;HA;HE;HI;HO;HU;HV;LA;LE;LI;LO;LU;LV;MA;ME;MI;MO;MU;NA;HNA;NAH;
     NE;NI;NO;NU;NV;QUA;QUE;QUI;QUO;QUU;QUV;SA;S;SE;SI;SO;SU;SV;DA;TA;DE;TE;DI;TI;DO;DU;DV;DLA
   13DD|CHEROKEE l |TL;TS;W;Y|A;E;I;O;U;V
   13F5|CHEROKEE l MV|
   13F8|CHEROKEE m l |YE;YI;YO;YU;YV;MV
   1400|cg sl |hy;E;AAI;I;II;O;OO;yc OO;ck EE;ck I;A;AA;WE;we WE;WI;we WI;WII;we WII;WO;we WO;WOO;we WOO;ns WOO;WA;
     we WA;WAA;we WAA;ns WAA;AI;yc W;gl so;x ac;x ga;x bt ha rn;x tg ha rn;x r ha rn;x rn;x d ac;x d sr ve STROKES;
     x mi i;x sr hr st;x pl;x do tk;EN;IN;ON;AN;PE;PAAI;PI;PII;PO;POO;yc POO;ck HEE;ck HI;PA;PAA;PWE;we PWE;PWI;
     we PWI;PWII;we PWII;PWO;we PWO;PWOO;we PWOO;PWA;we PWA;PWAA;we PWAA;yc PWAA;P;we P;ck H;TE;TAAI;TI;TII;TO;TOO;
     yc TOO;ck DEE;ck DI;TA;TAA;TWE;we TWE;TWI;we TWI;TWII;we TWII;t;we t;TWOO;we TWOO;TWA;we TWA;TWAA;we TWAA;
     ns TWAA;T;TTE;TTI;TTO;tt;KE;KAAI;KI;KII;KO;KOO;yc KOO;KA;KAA;KWE;we KWE;KWI;we KWI;KWII;we KWII;KWO;we KWO;KWOO;
     we KWOO;KWA;we KWA;KWAA;we KWAA;ns KWAA;K;KW
   1485|cg sl SOUTH-SLAVEY K|EH;IH;OH;AH
   1489|cg sl |CE;CAAI;CI;CII;CO;COO;yc COO;CA;CAA;CWE;we CWE;CWI;we CWI;CWII;we CWII;CWO;we CWO;CWOO;we CWOO;CWA;
     we CWA;CWAA;we CWAA;ns CWAA;C;fb TH;ME;MAAI;MI;MII;MO;MOO;yc MOO;MA;MAA;MWE;we MWE;MWI;we MWI;MWII;we MWII;MWO;
     we MWO;MWOO;we MWOO;MWA;we MWA;MWAA;we MWAA;ns MWAA;M;we M;MH;ATHAPASCAN M;fb M;NE;NAAI;NI;NII;NO;NOO;yc NOO;NA;
     NAA;NWE;we NWE;NWA;we NWA;NWAA;we NWAA;ns NWAA;N;ck NG;NH;LE;LAAI;LI;LII;LO;LOO;yc LOO;LA;LAA;LWE;we LWE;LWI;
     we LWI;LWII;we LWII;LWO;we LWO;LWOO;we LWOO;LWA;we LWA;LWAA;we LWAA;L;we L;ml L;SE;SAAI;SI;SII;SO;SOO;yc SOO;SA;
     SAA;SWE;we SWE;SWI;we SWI;SWII;we SWII;SWO;we SWO;SWOO;we SWOO;SWA;we SWA;SWAA;we SWAA;ns SWAA;S;ATHAPASCAN S;SW;
     BLACKFOOT S;MOOSE-CREE SK;ns SKW;ns S-W;ns SPWA;ns STWA;ns SKWA;ns SCWA;SHE;SHI;SHII;SHO;SHOO;sh;SHAA;SHWE;
     we SHWE;SHWI;we SHWI;SHWII;we SHWII;SHWO;we SHWO;SHWOO;we SHWOO;SHWA;we SHWA;SHWAA;we SHWAA;SH;YE;YAAI;YI;YII;YO;
     YOO;yc YOO;YA;YAA;YWE;we YWE;YWI;we YWI;YWII;we YWII;YWO;we YWO;YWOO;we YWOO;YWA;we YWA;YWAA;we YWAA;ns YWAA;Y;
     BIBLE-CREE Y;we Y;fb YI;RE;R-CREE RE;we LE;RAAI;RI;RII;RO;ROO;we LO;RA;RAA;we LA;RWAA;we RWAA;R;we R;ml R;FE;
     FAAI;FI;FII;FO;FOO;FA;FAA;FWAA;we FWAA;F;tf;N-CREE tf;THI;N-CREE THI;THII;N-CREE THII;THO;THOO;tb;THAA;THWAA;
     we THWAA;TH;TTHE;TTHI;TTHO;td;TTH;TYE;TYI;TYO;TYA
   1574|cg sl NUNAVIK H|E;I;II;O;OO;A;AA;
   157C|cg sl |NUNAVUT H;HK;QAAI;QI;QII;QO;QOO;QA;QAA;Q
   1586|cg sl |TLH;we R|E;I;O;A
   158E|cg sl |NGAAI;NGI;NGII;NGO;NGOO;ng;NGAA;NG;NNG;fb SHE;fb SHI;fb SHO;fb sh
   159B|cg sl WOODS-CREE |tf;THI;THO;tb;TH
   15A0|cg sl LH|I;II;O;OO;A;AA;
   15A7|cg sl TH-CREE |tf;THI;THII;THO;THOO;tb;THAA;TH
   15AF|cg sl AIVILIK B|
   15B0|cg sl BLACKFOOT |;W;N;K|E;I;O;A
   15C0|cg sl fb H|E;I;O;A
   15C4|cg sl ck |GHU;GHO;GHE;GHEE;GHI;gh
   15CA|cg sl ck |R;W;HW|U;O;E;EE;I;A
   15DC|cg sl ck |THU;THO;tf;THEE;THI;tb;TTU;TTO;TTE;TTEE;TTI;tt;PU;PO;PE;PEE;PI;PA;P;GU;GO;GE;GEE;GI;GA;KHU;KHO;
     KHE;KHEE;KHI;kh;KKU;KKO;KKE;KKEE;KKI;KKA;KK
   1602|cg sl ck |N;M;Y|U;O;E;EE;I;A
   1614|cg sl |ck JU;fb JU;ck JO;ck JE;ck JEE;ck JI;fb JI;ck JA
   161C|cg sl ck |JJ;L;DL;LH;TLH;TL;Z|U;O;E;EE;I;A
   1646|cg sl ck |Z;in Z;DZU;DZO;DZE;DZEE;DZI;DZA;SU;SO;SE;SEE;SI;SA;SHU;SHO;SHE;SHEE;SHI;sh;SH;TSU;TSO;TSE;TSEE;
     TSI;TSA;CHU;CHO;CHE;CHEE;CHI;ch;TTSU;TTSO;TTSE;TTSEE;TTSI;TTSA
   166D|cg sl |CHI s;fu so;QAI;NGAI
   1671|cg sl NNG|I;II;O;OO;A;AA
   1677|cg sl WOODS-CREE THW|EE;I;II;O;OO;A;AA
   167E||cg sl WOODS-CREE x TH;cg sl BLACKFOOT W;OGHAM ab k
   1681|OGHAM l |BEITH;LUIS;FEARN;SAIL;NION;UATH;DAIR;TINNE;COLL;CEIRT;MUIN;GORT;NGEADAL;STRAIF;RUIS;AILM;ONN;UR;
     EADHADH;IODHADH;EABHADH;OR;UILLEANN;IFIN;EAMHANCHOLL;PEITH
   169B|OGHAM |FEATHER k;re FEATHER k
   16A0|RUNIC l |FEHU FEOH FE F;V;URUZ UR U;YR;Y;W;THURISAZ THURS THORN;ETH;ANSUZ A;OS O;AC A;AESC;
     LONG-BRANCH-OSS O;SHORT-TWIG-OSS O;O;OE;ON;RAIDO RAD REID R;KAUNA;CEN;KAUN K;G;ENG;GEBO GYFU G;GAR;WUNJO WYNN W;
     HAGLAZ H;HAEGL H;LONG-BRANCH-HAGALL H;SHORT-TWIG-HAGALL H;NAUDIZ NYD NAUD N;SHORT-TWIG-NAUD N;DOTTED-N;
     ISAZ IS ISS I;E;JERAN J;GER;LONG-BRANCH-AR AE;SHORT-TWIG-AR A;IWAZ EOH;PERTHO PEORTH P;ALGIZ EOLHX;SOWILO S;
     SIGEL LONG-BRANCH-SOL S;SHORT-TWIG-SOL S;C;Z;TIWAZ TIR TYR T;SHORT-TWIG-TYR T;D;BERKANAN BEORC BJARKAN B;
     SHORT-TWIG-BJARKAN B;DOTTED-P;OPEN-P;EHWAZ EH E;MANNAZ MAN M;LONG-BRANCH-MADR M;SHORT-TWIG-MADR M;
     LAUKAZ LAGU LOGR L;DOTTED-L;INGWAZ;ING;DAGAZ DAEG D;OTHALAN ETHEL O;EAR;IOR;CWEORTH;CALC;CEALC;STAN;
     LONG-BRANCH-YR;SHORT-TWIG-YR;ICELANDIC-YR;Q;X
   16EB|RUNIC |sn pu;MULTIPLE pu;cs pu;ARLAUG y;TVIMADUR y;BELGTHOR y;l K;l SH;l OO
   16F4|RUNIC l FRANKS CASKET |OS;IS;EH;AC;AESC
   1700|TAGALOG l |A;I;U;KA;GA;ng;TA;DA;NA;PA;BA;MA;YA;RA;LA;WA;SA;HA
   1712|TAGALOG |vo s I;vo s U;s vi;s PAMUDPOD
   171F|TAGALOG l ah RA|
   1720|HANUNOO l |A;I;U;KA;GA;ng;TA;DA;NA;PA;BA;MA;YA;RA;LA;WA;SA;HA
   1732|HANUNOO |vo s I;vo s U;s PAMUDPOD
   1735|PHILIPPINE |sn pu;d pu
   1740|BUHID l |A;I;U;KA;GA;ng;TA;DA;NA;PA;BA;MA;YA;RA;LA;WA;SA;HA
   1752|BUHID vo s |I;U
   1760|TAGBANWA l |A;I;U;KA;GA;ng;TA;DA;NA;PA;BA;MA;YA
   176E|TAGBANWA l |LA;WA;SA
   1772|TAGBANWA vo s |I;U
   1780|KHMER l |KA;kh;KO;KHO;NGO;CA;ch;CO;CHO;NYO;DA;td;DO;TTHO;NNO;TA;tb;TO;THO;NO;BA;ph;PO;PHO;MO;YO;RO;LO;VO;sh;
     SSO;SA;HA;LA;QA
   17A3|KHMER jf vo |QAQ;QAA;QI;QII;QU;QUK;QUU;QUUV;RY;RYY;LY;LYY;QE;QAI;QOO TYPE o;QOO TYPE t;QAU
   17B4|KHMER vo INHERENT A|Q;A
   17B6|KHMER vo s |AA;I;II;Y;YY;U;UU;UA;OE;YA;IE;E;AE;AI;OO;AU
   17C6|KHMER s |NIKAHIT;REAHMUK;YUUKALEAPINTU;MUUSIKATOAN;TRIISAP;BANTOC;ROBAT;TOANDAKHIAT;KAKABAT;AHSDA;
     SAMYOK SANNYA;VIRIAM;COENG;BATHAMASAT;KHAN;BARIYOOSAN;CAMNUC PII KUUH;LEK TOO;BEYYAL;PHNAEK MUAN;KOOMUUT
   17DB|KHMER |CURRENCY y RIEL;s AVAKRAHASANYA;s ATTHACAN
   17E0|KHMER di |ze;o;t;h;u;fi;si;se;ei;ni
   17F0|KHMER y LEK ATTAK |SON;MUOY;PII;BEI;BUON;PRAM;PRAM-MUOY;PRAM-PII;PRAM-BEI;PRAM-BUON
   1800|mg |BIRGA;iy;cm;fu so;cd;u dt;TODO SOFT hy;SIBE sy BOUNDARY MARKER;MANCHU cm;MANCHU fu so;NIRUGU
   180B|mg FREE vb SELECTOR |o;t;h
   180E|mg |vo sp;FREE vb SELECTOR u
   1810|mg di |ze;o;t;h;u;fi;si;se;ei;ni
   1820|mg l |A;E;I;O;U;OE;UE;EE;NA;ANG;BA;PA;QA;GA;MA;LA;SA;sh;TA;DA;ch;JA;YA;RA;WA;FA;KA;kh;TSA;ZA;HAA;ZRA;LHA;
     ZHI;CHI
   1843|mg l TODO |ln vo s;E;I;O;U;OE;UE;ANG;BA;PA;QA;GA;MA;TA;DA;ch;JA;TSA;YA;WA;KA;GAA;HAA;JIA;NIA;DZA
   185D|mg l SIBE |E;I;IY;UE;U;ANG;KA;GA;HA;PA;sh;TA;DA;JA;FA;GAA;HAA;TSA;ZA;RAA;ch;ZHA
   1873|mg l MANCHU |I;KA;RA;FA;ZHA
   1878|mg l ch w t dt|
   1880|mg l ALI GALI |au o;vs o;DAMARU;UBADAMA;iv UBADAMA;BALUDA;h BALUDA;A;I;KA;ng;CA;tt;td;dd;na;TA;DA;PA;ph;SSA;
     ZHA;ZA;AH
   1898|mg l TODO ALI GALI |TA;ZHA
   189A|mg l MANCHU ALI GALI |gh;ng;CA;JHA;tt;db;TA;dh;SSA;CYA;ZHA;ZA
   18A6|mg l ALI GALI ha |U;YA
   18A8|mg l |MANCHU ALI GALI bh;ALI GALI DAGALGA;MANCHU ALI GALI LHA
   18B0|cg sl |OY;AY;AAY;WAY;POY;PAY;PWOY;TAY;KAY;KWAY;MAY;NOY;NAY;LAY;SOY;SAY;SHOY;SHAY;SHWOY;YOY;YAY;RAY;NWI;
     OJIBWAY NWI;NWII;OJIBWAY NWII;NWO;OJIBWAY NWO;NWOO;OJIBWAY NWOO;RWEE;RWI;RWII;RWO;RWOO;RWA
   18D4|cg sl OJIBWAY |P;T;K;C;M;N;S;SH
   18DC|cg sl |EASTERN W;WESTERN W;x m rn;x ra i;R-CREE RWE;we LOO;we LAA;THWE;THWA;TTHWE;TTHOO;TTHAA;TLHWE;TLHOO;
     fb SHWE;fb SHOO;fb HOO;ck GWU;ck DENE GEE;ck GAA;ck GWA;fb JUU;ck JWA;BEAVER DENE L;BEAVER DENE R;ck DENTAL S
   1900|LIMBU VOWEL-CARRIER l|
   1901|LIMBU l |KA;kh;GA;gh;ng;CA;ch;JA;JHA;YAN;TA;tb;DA;dh;NA;PA;ph;BA;bh;MA;YA;RA;LA;WA;sh;SSA;SA;HA;GYAN;TRA
   1920|LIMBU vo s |A;I;U;EE;AI;OO;AU;E;O
   1929|LIMBU ig l |YA;RA;WA
   1930|LIMBU m l |KA;ng;au;TA;NA;PA;MA;RA;LA
   1939|LIMBU s |MUKPHRENG;KEMPHRENG;SA-I
   1940|LIMBU s LOO|
   1944|LIMBU |ex k;qe k
   1946|LIMBU di |ze;o;t;h;u;fi;si;se;ei;ni
   1950|TAI LE l |KA;XA;ng;TSA;SA;YA;TA;tb;LA;PA;ph;MA;FA;VA;HA;QA;kh;TSHA;NA;A;I;EE;EH;U;OO;O;UE;E;AUE;AI
   1970|TAI LE l TONE-|2;3;4;5;6
   1980|NEW TAI LUE l |hi QA;lw QA;hi KA;hi XA;hi ng;lw KA;lw XA;lw ng;hi TSA;hi SA;hi YA;lw TSA;lw SA;lw YA;hi TA;
     hi tb;hi NA;lw TA;lw tb;lw NA;hi PA;hi ph;hi MA;lw PA;lw ph;lw MA;hi FA;hi VA;hi LA;lw FA;lw VA;lw LA;hi HA;
     hi DA;hi BA;lw HA;lw DA;lw BA;hi KVA;hi XVA;lw KVA;lw XVA;hi SUA;lw SUA
   19B0|NEW TAI LUE vo s |vo SHORTENER;AA;II;U;UU;E;AE;O;OA;UE;AY;AAY;UY;OY;OAY;UEY;IY
   19C1|NEW TAI LUE l x |V;NG;N;M;K;D;B
   19C8|NEW TAI LUE to MARK-|1;2
   19D0|NEW TAI LUE di |ze;o;t;h;u;fi;si;se;ei;ni
   19DA|NEW TAI LUE THAM di o|
   19DE|NEW TAI LUE s LAE|;V
   19E0|KHMER y |PATHAMASAT;MUOY KOET;PII KOET;BEI KOET;BUON KOET
   19E5|KHMER y |PRAM;DAP| KOET;-MUOY KOET;-PII KOET;-BEI KOET;-BUON KOET
   19EF|KHMER y |DAP-PRAM KOET;TUTEYASAT;MUOY ROC;PII ROC;BEI ROC;BUON ROC
   19F5|KHMER y |PRAM;DAP| ROC;-MUOY ROC;-PII ROC;-BEI ROC;-BUON ROC
   19FF|KHMER y DAP-PRAM ROC|
   1A00|BUGINESE l |KA;GA;ng;NGKA;PA;BA;MA;MPA;TA;DA;NA;NRA;CA;JA;ny;NYCA;YA;RA;LA;VA;SA;A;HA
   1A17|BUGINESE vo s |I;U;E;O;AE
   1A1E|BUGINESE |PALLAWA;END OF sj
   1A20|TAI THAM l |hi KA;hi kh;hi KXA;lw KA;lw KXA;lw kh;ng;hi CA;hi ch;lw CA;lw SA;lw ch;ny;RATA;hi RATHA;DA;
     lw RATHA;RANA;hi TA;hi tb;lw TA;lw tb;NA;BA;hi PA;hi ph;hi FA;lw PA;lw FA;lw ph;MA;lw YA;hi YA;RA;RUE;LA;LUE;WA;
     hi sh;hi SSA;hi SA;hi HA;LLA;A;lw HA;I;II;U;UU;EE;OO;LAE;GREAT SA
   1A55|TAI THAM |ct s ml RA;ct s ml LA;ct s LA TANG LAI;s MAI KANG LAI
   1A59|TAI THAM ct s |x ng;lw PA;hi RATHA OR lw PA;MA;BA;SA
   1A60|TAI THAM s SAKOT|
   1A61|TAI THAM vo s |A;MAI SAT;AA;TALL AA;I;II;UE;UUE;U;UU;O;OA g;OY;E;AE;OO;AI;THAM AI;OA b
   1A74|TAI THAM s |MAI KANG;TONE-1;TONE-2;KHUEN TONE-3;KHUEN TONE-4;KHUEN TONE-5;RA HAAM;MAI SAM;KHUEN-LUE KARAN
   1A7F|TAI THAM co CRYPTOGRAMMIC i|
   1A80|TAI THAM HORA di |ze;o;t;h;u;fi;si;se;ei;ni
   1A90|TAI THAM THAM di |ze;o;t;h;u;fi;si;se;ei;ni
   1AA0|TAI THAM s |WIANG;WIANGWAAK;SAWAN;KEOW;HOY;DOKMAI;re ro RANA;MAI YAMOK;KAAN;KAANKUU;SATKAAN;SATKAANKUU;HANG;
     CAANG
   1AB0|co |DOUBLED cc ae;DIAERESIS-RING;INFINITY;dw a;tp i;X-X g;WIGGLY lb g;op k g;d op k g;
     li CENTRALIZATION st g;STRONG CENTRALIZATION st g;PARENTHESES b;d PARENTHESES b;PARENTHESES g;PARENTHESES oa;
     v m l W g;v m l tr W g;e pa b e;r pa b r;e pa g e;r pa g r;sq BRACKETS b;nu s b;iv d ARCH b;pl s b;d pl s b;
     d pl s g;tp ac ae
   1ACC|co v m l iu |G;R;T
   1B00|bv s |ULU RICEM;ULU bm;CECEK;SURANG;BISAH
   1B05|bv l |AKARA;IKARA;UKARA;RA REPA;LA LENGA|; TEDUNG
   1B0F|bv l |EKARA;AIKARA;OKARA;OKARA TEDUNG;KA;KA mr;GA;GA GORA;ng;CA;CA LACA;JA;JA JERA;ny;TA LATIK;TA MURDA mr;
     DA MURDA ALPAPRANA;DA MURDA mr;NA RAMBAT;TA;TA TAWA;DA;DA MADU;NA;PA;PA KAPAL;BA;BA KEMBANG;MA;YA;RA;LA;WA;
     SA SAGA;SA SAPA;SA;HA
   1B34|bv s REREKAN|
   1B35|bv vo s |TEDUNG;ULU;ULU SARI;SUKU;SUKU ILUT
   1B3A|bv vo s |RA REPA;LA LENGA|; TEDUNG
   1B3E|bv vo s TALING|; REPA; TEDUNG; REPA TEDUNG
   1B42|bv vo s PEPET|; TEDUNG
   1B44|bv ADEG ADEG|
   1B45|bv l |KAF SASAK;KHOT SASAK;TZIR SASAK;EF SASAK;VE SASAK;ZAL SASAK;ASYURA SASAK;ah JNYA
   1B50|bv di |ze;o;t;h;u;fi;si;se;ei;ni
   1B5A|bv |PANTI;PAMADA;WINDU;CARIK PAMUNGKAH;CARIK SIKI;CARIK PAREREN;PAMENENG
   1B61|bv mu y D|ONG;ENG;UNG;ANG;ANG SURANG;ING;AENG;EUNG;AING;ANG GEDE
   1B6B|bv mu y co |TEGEH;ENDEP;KEMPUL;KEMPLI;JEGOGAN;KEMPUL w JEGOGAN;KEMPLI w JEGOGAN;BENDE;GONG
   1B74|bv mu y RIGHT-HAND |op DUG;op DAG;cl TUK;cl TAK
   1B78|bv mu y LEFT-HAND |op PANG;op PUNG;cl PLAK;cl PLUK;op PING
   1B7D|bv PA|NTI LANTANG;MADA LANTANG
   1B80|fg s PAN|YECEK;GLAYAR;GWISAD
   1B83|fg l |A;I;U;AE;O;E;EU;KA;QA;GA;ng;CA;JA;ZA;ny;TA;DA;NA;PA;FA;VA;BA;MA;YA;RA;LA;WA;SA;XA;HA
   1BA1|fg ct s PA|MINGKAL;NYAKRA;NYIKU
   1BA4|fg vo s PA|NGHULU;NYUKU;NAELAENG;NOLONG;MEPET;NEULEUNG
   1BAA|fg |s PAMAAEH;s vi;ct s PASANGAN MA;ct s PASANGAN WA;l kh;l SYA
   1BB0|fg di |ze;o;t;h;u;fi;si;se;ei;ni
   1BBA|fg |ay;l REU;l LEU;l bh;l x K;l x M
   1BC0|BATAK l |A;fd A;HA;fd HA;MANDAILING HA;BA;KARO BA;PA;fd PA;NA;MANDAILING NA;WA;fd WA;PAKPAK WA;GA;fd GA;JA;
     DA;RA;fd RA;MA;fd MA;SOUTHERN TA;NORTHERN TA;SA;fd SA;MANDAILING SA;YA;fd YA;ng;LA;fd LA;ny;CA;NDA;MBA;I;U
   1BE6|BATAK s TOMPI|
   1BE7|BATAK vo s |E;PAKPAK E;EE;I;KARO I;O;KARO O;U;U fo fd SA
   1BF0|BATAK |ct s NG;ct s H;PANGOLAT;PANONGONAN
   1BFC|BATAK y BINDU |NA METEK;PINARBORAS;JUDUL;PANGOLAT
   1C00|LEPCHA l |KA;KLA;kh;GA;GLA;ng;CA;ch;JA;ny;TA;tb;DA;NA;PA;PLA;ph;FA;FLA;BA;BLA;MA;MLA;TSA;TSHA;DZA;YA;RA;LA;
     HA;HLA;VA;SA;sh;WA;A
   1C24|LEPCHA ig l |YA;RA
   1C26|LEPCHA vo s |AA;I;O;OO;U;UU;E
   1C2D|LEPCHA ct s |K;M;L;N;P;R;T;NYIN-DO;KANG
   1C36|LEPCHA s |RAN;nk
   1C3B|LEPCHA pu |TA-ROL;NYET THYOOM TA-ROL;CER-WA;TSHOOK CER-WA;TSHOOK
   1C40|LEPCHA di |ze;o;t;h;u;fi;si;se;ei;ni
   1C4D|LEPCHA l |tt;td;dd
   1C50|OL CHIKI di |ze;o;t;h;u;fi;si;se;ei;ni
   1C5A|OL CHIKI l |LA;AT;AG;ANG;AL;LAA;AAK;AAJ;AAM;AAW;LI;IS;IH;INY;IR;LU;UC;UD;UNN;UY;LE;EP;EDD;EN;ERR;LO;OTT;OB;
     OV;OH
   1C78|OL CHIKI |MU TTUDDAG;GAAHLAA TTUDDAAG;MU-GAAHLAA TTUDDAAG;RELAA;PHAARKAA;AHAD;pu MUCAAD;pu d MUCAAD
   1C80|cy m l |ru VE;LONG-LEGGED DE;NARROW O;WIDE ES;TALL TE;THREE-LEGGED TE;TALL HARD s;TALL YAT;UNBLENDED UK
   1C90|gg MTAVRULI c l |AN;BAN;GAN;DON;EN;VIN;ZEN;TAN;IN;KAN;LAS;MAN;NAR;ON;PAR;ZHAR;RAE;SAN;TAR;UN;PHAR;KHAR;GHAN;
     QAR;sk;CHIN;CAN;JIL;CIL;CHAR;XAN;JHAN;HAE;HE;HIE;WE;HAR;HOE;FI;YN;ELIFI;tr GAN;AIN
   1CBD|gg MTAVRULI c l |AEN;HARD s;LABIAL s
   1CC0|fg pu BINDU |SURYA;PANGLONG;PURNAMA;CAKRA;LEU SATANGA;KA SATANGA;DA SATANGA;BA SATANGA
   1CD0|VEDIC |to KARSHANA;to SHARA;to PRENKHA;s NIHSHVASA;s YAJURVEDIC MIDLINE gc
   1CD5|VEDIC to YAJURVEDIC |AGGRAVATED jf gc;jf gc;KATHAKA jf gc
   1CD8|VEDIC to |bm g;YAJURVEDIC KATHAKA jf gc SCHROEDER;d gc;tp gc;KATHAKA ANUDATTA;i g;t dt g;h dt g;
     RIGVEDIC KASHMIRI jf gc;ATHARVAVEDIC jf gc
   1CE2|VEDIC s |vs gc;vs UDATTA;re vs UDATTA;vs ANUDATTA;re vs ANUDATTA;vs UDATTA w tc;vs ANUDATTA w tc;
     au ANTARGOMUKHA;au BAHIRGOMUKHA;au VAMAGOMUKHA;au VAMAGOMUKHA w tc;TIRYAK;HEXIFORM ln au;ln au;RTHANG ln au;
     au UBHAYATO MUKHA;ARDHAVISARGA;ro ARDHAVISARGA
   1CF4|VEDIC |to bm b;s jy;s ua;s ATIKRAMA;to rn b;to d rn b;s d au ANTARGOMUKHA
   1D00|v |l m c A;l m c AE;m l tr AE
   1D03|v l m c |BARRED B;C;D;ETH;E
   1D08|v m l tr |op E;I
   1D0A|v l m c |J;K;L w st;M;re N;O;op O
   1D11|v m l jh |O;op O;O w st
   1D14|v |m l tr OE;l m c OU;m l tg ha O;m l bt ha O
   1D18|v l m c |P;re R;tr R;T;U
   1D1D|v m l jh |U;DIAERESIZED U;tr M
   1D20|v l m c |V;W;Z;EZH
   1D24|v l |VOICED LARYNGEAL SPIRANT;AIN
   1D26|gr l m c |GAMMA;LAMDA;PI;RHO;PSI
   1D2B|cy l m c EL|
   1D2C|mo l c |A;AE;B;BARRED B;D;E;re E;G;H;I;J;K;L;M;N;re N;O;OU;P;R;T;U;W
   1D43|mo l m |A;tr A;ap;tr AE;B;D;E;SCHWA;op E;tr op E;G;tr I;K;M;ENG;O;op O;tg ha O;bt ha O;P;T;U;jh U;tr M;V;
     AIN;BETA;gr GAMMA;DELTA;gr PHI;CHI
   1D62|v jt m l |I;R;U;V
   1D66|gr jt m l |BETA;GAMMA;RHO;PHI;CHI
   1D6B|v m l |UE;B w mi tl;D w mi tl;F w mi tl;M w mi tl;N w mi tl;P w mi tl;R w mi tl;R w FISHHOOK n mi tl;
     S w mi tl;T w mi tl;Z w mi tl;tr G
   1D78|mo l cy EN|
   1D79|v m |l iu G;l TH w STRIKETHROUGH;c l I w st;l io w st;l P w st;c l U w st
   1D7F|v m l |us w st;B w pt ho;D w pt ho;F w pt ho;G w pt ho;K w pt ho;L w pt ho;M w pt ho;N w pt ho;P w pt ho;
     R w pt ho;S w pt ho;ESH w pt ho;V w pt ho;X w pt ho;Z w pt ho;A w rt ho;ap w rt ho;D w ho n tc;E w rt ho;
     op E w rt ho;re op E w rt ho;SCHWA w rt ho;I w rt ho;op O w rt ho;ESH w rt ho;U w rt ho;EZH w rt ho
   1D9B|mo l m |tr ap;C;C w cp;ETH;re op E;F;dp J w st;sc G;tr H;I w st;io;c I;c I w st;J w gy;L w rt ho;L w pt ho;
     c L;M w ho;tr M w ln LEG;N w e ho;N w rt ho;c N;BARRED O;PHI;S w ho;ESH;T w pt ho;U ba;us;c U;V w ho;tr V;Z;
     Z w rt ho;Z w cp;EZH;THETA
   1DC0|co |dc ga ae;dc ac ae;SNAKE g;SUSPENSION k;MACRON-ACUTE;GRAVE-MACRON;MACRON-GRAVE;ACUTE-MACRON;
     GRAVE-ACUTE-GRAVE;ACUTE-GRAVE-ACUTE;v m l R g;BREVE-MACRON;MACRON-BREVE;d cc b;OGONEK b;ZIGZAG g;IS g;UR b;US b
   1DD3|co v m l |FLATTENED op A b;AE;AO;AV;C aq;iu D;ETH;G
   1DDB|co v |l m c G;m l K;m l L;l m c L;l m c M;m l N;l m c N;l m c R
   1DE3|co v m l |R ROTUNDA;S;ln S;Z;ap;B;BETA;SCHWA;F;L w d mi tl;O w li CENTRALIZATION st;P;ESH;
     U w li CENTRALIZATION st;W;A w de;O w de;U w de
   1DF5|co |UP tk b;KAVYKA b r;KAVYKA b e;i b e;WIDE iv BRIDGE g;i g e;DELETION k;d iv be g;dz eq TO g;e ar b;
     r ar n do ar g
   1E00/v |c;m| l |A w rn g;B w i b;B w i g;B w lb g;C w aq n ac;D w i b;D w i g;D w lb g;D w aq;D w cc g;
     E w mc n ga;E w mc n ac;E w cc g;E w tl g;E w aq n be;F w i b;G w mc;H w i b;H w i g;H w de;H w aq;H w be g;
     I w tl g;I w de n ac;K w ac;K w i g;K w lb g;L w i g;L w i g n mc;L w lb g;L w cc g;M w ac;M w i b;M w i g;
     N w i b;N w i g;N w lb g;N w cc g;O w tl n ac;O w tl n de;O w mc n ga;O w mc n ac;P w ac;P w i b;R w i b;R w i g;
     R w i g n mc;R w lb g;S w i b;S w i g;S w ac n i b;S w cj n i b;S w i g n i b;T w i b;T w i g;T w lb g;T w cc g;
     U w de g;U w tl g;U w cc g;U w tl n ac;U w mc n de;V w tl;V w i g;W w ga;W w ac;W w de;W w i b;W w i g;X w i b;
     X w de;Y w i b;Z w cc;Z w i g;Z w lb g
   1E96|v m l |H w lb g;T w de;W w rn b;Y w rn b;A w r ha rn
   1E9B|v m l ln S w |i b;da st;hi st
   1E9E|v |c l SHARP S;m l DELTA
   1EA0/v |c;m| l A w |i g;ho b;cc n ac;cc n ga;cc n ho b;cc n tl;cc n i g;be n ac;be n ga;be n ho b;be n tl;be n i g
   1EB8/v |c;m| l E w |i g;ho b;tl;cc n ac;cc n ga;cc n ho b;cc n tl;cc n i g
   1EC8/v |c;m| l |I w ho b;I w i g;O w i g;O w ho b
   1ED0/v |c;m| l O w cc n |ac;ga;ho b;tl;i g
   1EDA/v |c;m| l O w HORN n |ac;ga;ho b;tl;i g
   1EE4/v |c;m| l U w |i g;ho b
   1EE8/v |c;m| l U w HORN n |ac;ga;ho b;tl;i g
   1EF2/v |c;m| l |Y w ga;Y w i g;Y w ho b;Y w tl;MIDDLE-WELSH LL;MIDDLE-WELSH V;Y w LOOP
   1F00|gr |m l ap w ;c l ap w |ps;ds;ps n va;ds n va;ps n ox;ds n ox;ps n pe;ds n pe
   1F10|gr m l ep w |ps;ds;ps n va;ds n va;ps n ox;ds n ox
   1F18|gr c l ep w |ps;ds;ps n va;ds n va;ps n ox;ds n ox
   1F20|gr |m l ETA w ;c l ETA w ;m l io w ;c l io w |ps;ds;ps n va;ds n va;ps n ox;ds n ox;ps n pe;ds n pe
   1F40|gr m l oo w |ps;ds;ps n va;ds n va;ps n ox;ds n ox
   1F48|gr c l oo w |ps;ds;ps n va;ds n va;ps n ox;ds n ox
   1F50|gr m l us w |ps;ds
   1F52/gr m l us w |ps;ds| n |va;ox;pe
   1F59|gr c l us w ds|
   1F5B|gr c l us w ds n va|
   1F5D|gr c l us w ds n ox|
   1F5F|gr c l us w ds n pe|
   1F60|gr |m l om w ;c l om w |ps;ds;ps n va;ds n va;ps n ox;ds n ox;ps n pe;ds n pe
   1F70|gr m l |ap w ;ep w ;ETA w ;io w ;oo w ;us w ;om w |va;ox
   1F80/gr m l ap w |ps;ds| n |yp;va n yp;ox n yp;pe n yp
   1F88/gr c l ap w |ps;ds| n |pg;va n pg;ox n pg;pe n pg
   1F90/gr m l ETA w |ps;ds| n |yp;va n yp;ox n yp;pe n yp
   1F98/gr c l ETA w |ps;ds| n |pg;va n pg;ox n pg;pe n pg
   1FA0/gr m l om w |ps;ds| n |yp;va n yp;ox n yp;pe n yp
   1FA8/gr c l om w |ps;ds| n |pg;va n pg;ox n pg;pe n pg
   1FB0|gr m l ap w |VRACHY;mc;va n yp;yp;ox n yp
   1FB6|gr m l ap w pe|; n yp
   1FB8|gr c l ap w |VRACHY;mc;va;ox;pg
   1FBD|gr |KORONIS;pg;ps;pe;dy n pe
   1FC2|gr m l ETA w |va n yp;yp;ox n yp
   1FC6|gr m l ETA w pe|; n yp
   1FC8|gr c l ep w |va;ox
   1FCA|gr c l ETA w |va;ox;pg
   1FCD|gr ps n |va;ox;pe
   1FD0|gr m l io w |VRACHY;mc;dy n va;dy n ox
   1FD6|gr m l io w |pe;dy n pe
   1FD8|gr c l io w |VRACHY;mc;va;ox
   1FDD|gr ds n |va;ox;pe
   1FE0|gr m l us w |VRACHY;mc;dy n va;dy n ox
   1FE4|gr m l |RHO w ps;RHO w ds;us w pe;us w dy n pe
   1FE8|gr c l us w |VRACHY;mc;va;ox
   1FEC|gr |c l RHO w ds;dy n va;dy n ox;va
   1FF2|gr m l om w |va n yp;yp;ox n yp
   1FF6|gr m l om w pe|; n yp
   1FF8|gr c l o|o w ;m w |va;ox
   1FFC|gr |c l om w pg;ox;ds"

end FloScript.Text.CharName
