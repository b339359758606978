/-! Words that are abbreviated in the tables of names. -/
namespace FloScript.Text.CharName

/-- Abbreviations with the words they stand for. -/
def words : String :=
  "a ARROW;aa ALTERNATE;ab SPACE;ac ACUTE;ad SIDDHAM;ae ACCENT;af SHELL;ag SMILING;ah ARCHAIC;ai ALTERNATING;
     aj SPOKED;ak ANTICLOCKWISE;al ALEF;am ALEPH;an ANGLE;ao ARCHAION;ap ALPHA;aq CEDILLA;ar ARROWHEAD;as ASH;
     at ASTERISK;au ANUSVARA;av ABBREVIATION;aw SIXTY;ax ARROWS;ay AVAGRAHA;az SADHE;b ABOVE;ba BAR;bb SAMEKH;
     bc BRACKET;bd SINHALA;be BREVE;bf SLANTED;bg BENGALI;bh BHA;bi SLASH;bj ANATOLIAN;bk ATTACHED;bl BLOCK;bm CANDRA;
     bn BENT;bo BOLD;bp CIRCLES;bq CLOCKWISE;br BARB;bs SHADE;bt BOTTOM;bu SOUND;bv BALINESE;bw BETWEEN;bx BULLET;
     by SPADES;bz SPREAD;c CAPITAL;ca CANDRABINDU;cb CHESS;cc CIRCUMFLEX;cd COLON;ce CENTRE;cf CORNER;cg CANADIAN;
     ch CHA;ci CIRCLE;cj CARON;ck CARRIER;cl CLOSED;cm COMMA;cn CROSSING;co COMBINING;cp CURL;cq CURLY;cr CIRCLED;
     cs CROSS;ct CONSONANT;cu CUNEIFORM;cv CURVE;cw CONJOINED;cx COPTIC;cy CYRILLIC;cz C-SIMPLIFIED;d DOUBLE;
     da DIAGONAL;db DDHA;dc DOTTED;dd DDA;de DIAERESIS;df DASH;dg DIGRAPH;dh DHA;di DIGIT;dj DAGESH;dk DISH;
     dl DESCENDER;dm DIAMOND;dn DANDA;do DOWN;dp DOTLESS;dq DIAMONDS;dr DEGREES;ds DASIA;dt DOTS;du DOUBLE-STRUCK;
     dv DEVANAGARI;dw DOWNWARDS;dx SYRIAC;dy DIALYTIKA;dz ALMOST;e LEFT;ea EAST;eb DASHED;ec DRAWINGS;ed SUPERSCRIPT;
     ee SEMICOLON;ef TORTOISE;eg EGYPTIAN;eh EIGHTH;ei EIGHT;ej TWELVE;ek BESIDE;el EQUILATERAL;em BRAHMI;
     en BYZANTINE;eo CHIEUCH;ep EPSILON;eq EQUAL;er CROSSED;es EIGHTHS;et ETHIOPIC;eu EQUALS;ev EQUIVALENT;ew CURVED;
     ex EXCLAMATION;ey EIGHTY;ez SALTIRE;f FORM;fa FACE;fb SAYISI;fc FRACTION;fd SIMALUNGUN;fe SUBSET;ff FIFTY;
     fg SUNDANESE;fh THROUGH;fi FIVE;fj TIKEUT;fk TURKIC;fl TWO-HEADED;fm BHAIKSUKI;fn FINGERS;fo FOR;fp ELEMENT;
     fq FIFTEEN;fr FROM;fs FIST;ft FORTY;fu FULL;fv SAMARITAN;fw FORWARD;fx SHADOWED;fy SOYOMBO;fz SUPERSET;g BELOW;
     ga GRAVE;gb GIMEL;gc SVARITA;gd THESPIAN;ge GREATER-THAN;gf THIEUTH;gg GEORGIAN;gh GHA;gi GHAIN;gj GUJARATI;
     gk TWELFTHS;gl GLOTTAL;gm GURMUKHI;gn GRANTHA;go GONDI;gp ALPAPRAANA;gq APOSTROPHE;gr GREEK;gs BAMBOOS;
     gt CENTRED;gu GUNU;gv CHARACTER;gw CHARACTERS;gx CHOSEONG;gy CROSSED-TAIL;gz DOWN-POINTING;h THREE;ha HALF;
     hb HEART;hc HINGE;hd HINGED;he HEAVY;hf HALFWIDTH;hg HIEROGLYPH;hh HAH;hi HIGH;hj HAND-FIST;hk ENVELOPE;
     hl HANGUL;hm HAMZA;hn HAND;ho HOOK;hp HARPOON;hq SHESHIG;hr HORIZONTAL;hs HEARTS;ht HITTING;hu HUNDRED;
     hv SIXTEEN;hw HEBREW;hx SOGDIAN;hy HYPHEN;hz STRETCHED;i DOT;ia ITALIC;ib INVERSE;ic ITERATION;id INDEX;
     ie IDEOGRAPHIC;if IOTIFIED;ig SUBJOINED;ih AMPERSAND;ii INSIDE;ij ARABIC-INDIC;ik ARMENIAN;il BACKHAND;
     im COMPRESSED;in INITIAL;io IOTA;ip CONTAINS;iq CRESCENTS;ir INTERSECTION;is ISOLATED;it INTEGRAL;iu INSULAR;
     iv INVERTED;iw DIVISION;ix EIGHTEEN;iy ELLIPSIS;iz EXTENDED;j TIMES;ja JAVANESE;jb FLOORPLANE;jc FULLWIDTH;
     jd HENTAIGANA;je JEEM;jf INDEPENDENT;jg INDICATOR;jh SIDEWAYS;ji SSANGSIOS;jj SUBGROUP;jk THOUSANDS;jl TURNSTILE;
     jm BACKSLASH;jn CONTAINING;jo DIATONIKI;jp DOUBLE-LINE;jq ENCLOSING;jr SAURASHTRA;js SEVENTEEN;jt SUBSCRIPT;
     ju TEARDROP-SPOKED;jv EQUIHOPPER;jw GLAGOLITIC;jx IMPERFECTA;jy JIHVAMULIYA;jz SSANGPIEUP;k MARK;ka KHAH;
     kb TROEZENIAN;kc APPROXIMATELY;kd KANNADA;ke KHIEUKH;kf BLACK-LETTER;kh KHA;ki KIYEOK;kk KATAKANA-HIRAGANA;
     kl KLYUCHEVAYA;kn KNIGHT;ko KHAROSHTHI;kr KRYZHEM;ks KASKAL;kt KATAKANA;l LETTER;la LARGE;lb LINE;lc LOGICAL;
     ld LAMEDH;le LEFTWARDS;lf LEFT-POINTING;lg LIGATURE;lh LENGTH;li LIGHT;lj LEFT-STEM;lk LEFT-TO-RIGHT;lm LAM;
     ln LONG;lo LOWER;lr LINEAR;ls LESS-THAN;lt LITTLE;lw LOW;lz LOZENGE;m SMALL;ma MATHEMATICAL;mb MOUNTAIN;
     mc MACRON;md MEDIUM;me MEEM;mf MANICHAEAN;mg MONGOLIAN;mh MAHAAPRAANA;mi MIDDLE;mk MAKSURA;ml MEDIAL;
     mm MALAYALAM;mn MOON;mo MODIFIER;mp MULTIPLICATION;mr MAHAPRANA;ms MINUS;mt MOUTH;mu MUSICAL;
     mv MOVEMENT-FLOORPLANE;mw MOVEMENT-WALLPLANE;my MYANMAR;n AND;na NNA;nb NOON;nc NOTE;nd NOTCHED;ne NINETY;
     nf NOTATION;ng NGA;nh NOTEHEAD;ni NINE;nj NANDINAGARI;nk NUKTA;nl NUMERAL;nm NEUME;nn NUN;no NORTH;
     np NEPOSTOYANNAYA;nr NEUTRAL;ns NASKAPI;nt NOT;nu NUMBER;nv NEGATIVE;ny NYA;o ONE;oa OVERLAY;ob OVERBAR;
     oc OCLOCK;oe OPERATOR;oi ORIYA;ok ORKHON;ol OLD;om OMEGA;on OVERLINE;oo OMICRON;op OPEN;oq OBLIQUE;or ORNAMENT;
     os OPPOSING;ov OVER;ox OXIA;p BLACK;pa PARENTHESIS;pb PARALLEL;pd PRODUCT;pe PERISPOMENI;pg PROSGEGRAMMENI;
     ph PHA;pi POINTED;pl PLUS;pm PARESTIGMENON;pn PINWHEEL;po POINTING;pp PHIEUPH;pr PERSON;ps PSILI;pt PALATAL;
     pu PUNCTUATION;pv POVYSHE;pz PARENTHESIZED;q ARABIC;qa QUAD;qd QUADRANT;qe QUESTION;qo QUOTATION;qp QUADRUPLE;
     qr QUARTERS;qu QUARTER;r RIGHT;ra RAISED;rd RADICAL;re REVERSED;rg RIGHT-POINTING;ri RIGHTWARDS;rn RING;
     ro ROTATED;rs RISING;rt RETROFLEX;ru ROUNDED;rv REVERSE;s SIGN;sa STAR;sb SIDE;sc SCRIPT;sd SQUARED;se SEVEN;
     sf SEEN;sg SIGNWRITING;sh SHA;si SIX;sj SECTION;sk SHIN;sl SYLLABICS;sm SHAFT;sn SINGLE;so STOP;sp SEPARATOR;
     sq SQUARE;sr SHORT;ss SANS-SERIF;st STROKE;su SOUTH;sv SEVENTY;sw SOLIDUS;sx STRAIGHT;sy SYLLABLE;sz SHEEN;t TWO;
     ta TRIANGLE-HEADED;tb THA;tc TAIL;td TTHA;te TEN;tf THE;tg TOP;th THOUSAND;ti TRIANGLE;tj TIBETAN;tk TACK;
     tl TILDE;tm TAMIL;tn TENU;to TONE;tp TRIPLE;tq TRIANGULAR;tr TURNED;ts TELUGU;tt TTA;tu THUMB;tv TONOS;tw TWENTY;
     tx TAILED;ty THIRTY;tz TELEPHONE;u FOUR;ua UPADHMANIYA;ui UNION;un UNDERBAR;uo UP-POINTING;up UPPER;us UPSILON;
     uw UPWARDS;v LATIN;va VARIA;vb VARIATION;vc VOCALIC;ve VERTICAL;vh VITHKUQI;vi VIRAMA;vn VARIANT;vo VOWEL;
     vr VERY;vs VISARGA;vt VERTICALLY;w WITH;wa WAVE;we WEST-CREE;wl WALLPLANE;ws WEST;wt WATER;x FINAL;y SYMBOL;
     yc Y-CREE;ye YEH;yn YENISEI;yp YPOGEGRAMMENI;z WHITE;za ZAYIN;zb ZANABAZAR;ze ZERO;zn ZNAMENNY;zp ZAPYATAYA"

end FloScript.Text.CharName
