/-! Names of characters from 1F100 to 10FFFF: pictures and marks. -/
namespace FloScript.Text.CharName

/-- Rows of a table of abbreviated names. -/
def pictures : String :=
  "1F100|di |ze fu so;ze cm;o cm;t cm;h cm;u cm;fi cm;si cm;se cm;ei cm;ni cm
   1F10B|DINGBAT |cr ss di ze;nv cr ss di ze
   1F10D|cr |ze w bi;ak a;DOLLAR s w OVERLAID jm
   1F110|pz v c l |A;B;C;D;E;F;G;H;I;J;K;L;M;N;O;P;Q;R;S;T;U;V;W;X;Y;Z
   1F12A||ef af BRACKETED v c l S;cr ia v c l C;cr ia v c l R;cr CD;cr WZ;COPYLEFT y
   1F130|sd v c l |A;B;C;D;E;F;G;H;I;J;K;L;M;N;O;P;Q;R;S;T;U;V;W;X;Y;Z
   1F14A|sd |HV;MV;SD;SS;PPV;WC
   1F150|nv cr v c l |A;B;C;D;E;F;G;H;I;J;K;L;M;N;O;P;Q;R;S;T;U;V;W;X;Y;Z
   1F16A|ra M|C s;D s;R s
   1F16D|cr |CC;C w OVERLAID jm;HUMAN FIGURE
   1F170|nv sd v c l |A;B;C;D;E;F;G;H;I;J;K;L;M;N;O;P;Q;R;S;T;U;V;W;X;Y;Z
   1F18A|er nv sd v c l P|
   1F18B|nv sd |IC;PA;SA;AB;WC
   1F190|sq DJ|
   1F191|sd |CL;COOL;FREE;ID;NEW;NG;OK;SOS;UP w ex k;VS;h D;SECOND SCREEN;t K;u K;ei K;fi POINT o;se POINT o;
     TWENTY-TWO POINT t;aw P;o hu tw P;v m l D;HC;HDR;HI-RES;LOSSLESS;SHV;UHD;VOD
   1F1AD|MASK WORK y|
   1F1E6|REGIONAL jg y l |A;B;C;D;E;F;G;H;I;J;K;L;M;N;O;P;Q;R;S;T;U;V;W;X;Y;Z
   1F200|s|q HIRAGANA HOKA;d kt KOKO;d kt SA
   1F210|sd CJK UNIFIED IDEOGRAPH-|624B;5B57;53CC
   1F213|sd kt DE|
   1F214|sd CJK UNIFIED IDEOGRAPH-|4E8C;591A;89E3;5929;4EA4;6620;7121;6599;524D;5F8C;518D;65B0;521D;7D42;751F;8CA9;
     58F0;5439;6F14;6295;6355;4E00;4E09;904A;5DE6;4E2D;53F3;6307;8D70;6253;7981;7A7A;5408;6E80;6709;6708;7533;5272;
     55B6;914D
   1F240|ef af BRACKETED CJK UNIFIED IDEOGRAPH-|672C;4E09;4E8C;5B89;70B9;6253;76D7;52DD;6557
   1F250|cr IDEOGRAPH A|DVANTAGE;CCEPT
   1F260|ru y fo |FU;LU;SHOU;XI;SHUANGXI;CAI
   1F300||CYCLONE;FOGGY;cl UMBRELLA;NIGHT w STARS;SUNRISE ov MOUNTAINS;SUNRISE;CITYSCAPE AT DUSK;
     SUNSET ov BUILDINGS;RAINBOW;BRIDGE AT NIGHT;wt wa;VOLCANO;MILKY WAY
   1F30D|EARTH GLOBE |EUROPE-AFRICA;AMERICAS;ASIA-AUSTRALIA
   1F310||GLOBE w MERIDIANS;NEW mn y;WAXING CRESCENT mn y;FIRST qu mn y;WAXING GIBBOUS mn y;fu mn y;
     WANING GIBBOUS mn y;LAST qu mn y;WANING CRESCENT mn y;CRESCENT mn;NEW mn w fa;FIRST qu mn w fa;LAST qu mn w fa;
     fu mn w fa;SUN w fa;GLOWING sa;SHOOTING sa;THERMOMETER;p DROPLET;z SUN;z SUN w m CLOUD
   1F325|z SUN BEHIND CLOUD|; w RAIN
   1F327|CLOUD w |RAIN;SNOW;LIGHTNING;TORNADO
   1F32B||FOG;WIND BLOWING fa;HOT DOG;TACO;BURRITO;CHESTNUT;SEEDLING;EVERGREEN TREE;DECIDUOUS TREE;PALM TREE;CACTUS;
     HOT PEPPER;TULIP;CHERRY BLOSSOM;ROSE;HIBISCUS;SUNFLOWER;BLOSSOM;EAR OF MAIZE;EAR OF RICE;HERB;u LEAF CLOVER;
     MAPLE LEAF;FALLEN LEAF;LEAF FLUTTERING IN WIND;MUSHROOM;TOMATO;AUBERGINE;GRAPES;MELON
   1F349||WATERMELON;TANGERINE;LEMON;BANANA;PINEAPPLE;RED APPLE;GREEN APPLE;PEAR;PEACH;CHERRIES;STRAWBERRY;
     HAMBURGER;SLICE OF PIZZA;MEAT ON BONE;POULTRY LEG;RICE CRACKER;RICE BALL;COOKED RICE;CURRY n RICE;STEAMING BOWL;
     SPAGHETTI;BREAD;FRENCH FRIES;ROASTED SWEET POTATO;DANGO;ODEN;SUSHI;FRIED SHRIMP;FISH CAKE w SWIRL DESIGN;
     SOFT ICE CREAM;SHAVED ICE;ICE CREAM;DOUGHNUT;COOKIE;CHOCOLATE ba;CANDY;LOLLIPOP;CUSTARD;HONEY POT;SHORTCAKE;
     BENTO BOX;POT OF FOOD;COOKING;FORK n KNIFE;TEACUP WITHOUT HANDLE;SAKE BOTTLE n CUP;WINE GLASS;COCKTAIL GLASS;
     TROPICAL DRINK;BEER MUG;CLINKING BEER MUGS;BABY BOTTLE;FORK n KNIFE w PLATE;BOTTLE w POPPING CORK;POPCORN;RIBBON;
     WRAPPED PRESENT;BIRTHDAY CAKE;JACK-O-LANTERN;CHRISTMAS TREE;FATHER CHRISTMAS
   1F386|FIREWORK|S; SPARKLER
   1F388||BALLOON;PARTY POPPER;CONFETTI BALL;TANABATA TREE;er FLAGS;PINE DECORATION;JAPANESE DOLLS;CARP STREAMER;
     WIND CHIME;mn VIEWING CEREMONY;SCHOOL SATCHEL;GRADUATION CAP;hb w TIP ON tf e;BOUQUET OF FLOWERS;MILITARY MEDAL;
     REMINDER RIBBON;mu KEYBOARD w JACKS;STUDIO MICROPHONE;LEVEL SLIDER;CONTROL KNOBS;BEAMED ASCENDING mu NOTES;
     BEAMED DESCENDING mu NOTES;FILM FRAMES;ADMISSION TICKETS;CAROUSEL HORSE;FERRIS WHEEL;ROLLER COASTER;
     FISHING POLE n FISH;MICROPHONE;MOVIE CAMERA;CINEMA;HEADPHONE;ARTIST PALETTE;tg HAT;CIRCUS TENT;TICKET;
     CLAPPER BOARD;PERFORMING ARTS;VIDEO GAME;DIRECT HIT;SLOT MACHINE;BILLIARDS;GAME DIE;BOWLING;FLOWER PLAYING CARDS;
     mu nc;MULTIPLE mu NOTES;SAXOPHONE;GUITAR;mu KEYBOARD;TRUMPET;VIOLIN;mu SCORE;RUNNING SHIRT w SASH
   1F3BE||TENNIS RACQUET n BALL;SKI n SKI BOOT;BASKETBALL n HOOP;CHEQUERED FLAG;SNOWBOARDER;RUNNER;SURFER;
     SPORTS MEDAL;TROPHY;HORSE RACING;AMERICAN FOOTBALL;RUGBY FOOTBALL;SWIMMER;WEIGHT LIFTER;GOLFER;RACING MOTORCYCLE;
     RACING CAR;CRICKET BAT n BALL;VOLLEYBALL;FIELD HOCKEY STICK n BALL;ICE HOCKEY STICK n PUCK;
     TABLE TENNIS PADDLE n BALL;SNOW CAPPED mb;CAMPING;BEACH w UMBRELLA;BUILDING CONSTRUCTION;HOUSE BUILDINGS;
     CITYSCAPE;DERELICT HOUSE BUILDING;CLASSICAL BUILDING;DESERT;DESERT ISLAND;NATIONAL PARK;STADIUM;HOUSE BUILDING;
     HOUSE w GARDEN;OFFICE BUILDING;JAPANESE POST OFFICE;EUROPEAN POST OFFICE;HOSPITAL;BANK;AUTOMATED TELLER MACHINE;
     HOTEL;LOVE HOTEL;CONVENIENCE STORE;SCHOOL;DEPARTMENT STORE;FACTORY;IZAKAYA LANTERN;JAPANESE CASTLE;
     EUROPEAN CASTLE;z PENNANT;p PENNANT;WAVING z FLAG;WAVING p FLAG;ROSETTE;p ROSETTE;LABEL;
     BADMINTON RACQUET n SHUTTLECOCK;BOW n a;AMPHORA
   1F3FB|EMOJI mo FITZPATRICK TYPE-|1-2;3;4;5;6
   1F400||RAT;MOUSE;OX;wt BUFFALO;COW;TIGER;LEOPARD;RABBIT;CAT;DRAGON;CROCODILE;WHALE;SNAIL;SNAKE;HORSE;RAM;GOAT;
     SHEEP;MONKEY;ROOSTER;CHICKEN;DOG;PIG;BOAR;ELEPHANT;OCTOPUS;SPIRAL af;BUG;ANT;HONEYBEE;LADY BEETLE;FISH;
     TROPICAL FISH;BLOWFISH;TURTLE;HATCHING CHICK;BABY CHICK;FRONT-FACING BABY CHICK;BIRD;PENGUIN;KOALA;POODLE;
     DROMEDARY CAMEL;BACTRIAN CAMEL;DOLPHIN;MOUSE fa;COW fa;TIGER fa;RABBIT fa;CAT fa;DRAGON fa;SPOUTING WHALE;
     HORSE fa;MONKEY fa;DOG fa;PIG fa;FROG fa;HAMSTER fa;WOLF fa;BEAR fa
   1F43C||PANDA fa;PIG NOSE;PAW PRINTS;CHIPMUNK;EYES;EYE;EAR;NOSE;mt;TONGUE;z UP po il id;z do po il id;
     z e po il id;z r po il id;FISTED hn s;WAVING hn s;OK hn s;THUMBS UP s;THUMBS do s;CLAPPING HANDS s;op HANDS s;
     CROWN;WOMANS HAT;EYEGLASSES;NECKTIE;T-SHIRT;JEANS;DRESS;KIMONO;BIKINI;WOMANS CLOTHES;PURSE;HANDBAG;POUCH;
     MANS SHOE;ATHLETIC SHOE;HIGH-HEELED SHOE;WOMANS SANDAL;WOMANS BOOTS;FOOTPRINTS;BUST IN SILHOUETTE;
     BUSTS IN SILHOUETTE;BOY;GIRL;MAN;WOMAN;FAMILY;MAN n WOMAN HOLDING HANDS;t MEN HOLDING HANDS;
     t WOMEN HOLDING HANDS;POLICE OFFICER;WOMAN w BUNNY EARS;BRIDE w VEIL;pr w BLOND HAIR;MAN w GUA PI MAO;
     MAN w TURBAN;OLDER MAN;OLDER WOMAN;BABY;CONSTRUCTION WORKER;PRINCESS
   1F479|JAPANESE |OGRE;GOBLIN
   1F47B||GHOST;BABY ANGEL;EXTRATERRESTRIAL ALIEN;ALIEN MONSTER;IMP;SKULL;INFORMATION DESK pr;GUARDSMAN;DANCER;
     LIPSTICK;NAIL POLISH;fa MASSAGE;HAIRCUT;BARBER POLE;SYRINGE;PILL;KISS k;LOVE l;rn;GEM STONE;KISS;BOUQUET;
     COUPLE w hb;WEDDING;BEATING hb;BROKEN hb;t hs;SPARKLING hb;GROWING hb;hb w a;BLUE hb;GREEN hb;YELLOW hb;
     PURPLE hb;hb w RIBBON;REVOLVING hs;hb DECORATION;dm SHAPE w A i ii;ELECTRIC li BULB;ANGER y;BOMB;SLEEPING y;
     COLLISION y;SPLASHING SWEAT y;DROPLET;df y;PILE OF POO;FLEXED BICEPS;DIZZY y;SPEECH BALLOON;THOUGHT BALLOON;
     z FLOWER;hu POINTS y;MONEY BAG;CURRENCY EXCHANGE;he DOLLAR s;CREDIT CARD
   1F4B4|BANKNOTE w |YEN s;DOLLAR s;EURO s;POUND s
   1F4B8||MONEY w WINGS;CHART w uw TREND n YEN s;SEAT;PERSONAL COMPUTER;BRIEFCASE;MINIDISC;FLOPPY DISK;OPTICAL DISC;
     DVD;FILE FOLDER;op FILE FOLDER;PAGE w cp;PAGE FACING UP;CALENDAR;TEAR-OFF CALENDAR;CARD id;CHART w uw TREND;
     CHART w dw TREND;ba CHART;CLIPBOARD;PUSHPIN;ROUND PUSHPIN;PAPERCLIP;sx RULER;tq RULER;BOOKMARK TABS;LEDGER;
     NOTEBOOK;NOTEBOOK w DECORATIVE COVER;cl BOOK;op BOOK;GREEN BOOK;BLUE BOOK;ORANGE BOOK;BOOKS;NAME BADGE;SCROLL;
     MEMO;tz RECEIVER;PAGER;FAX MACHINE;SATELLITE ANTENNA;PUBLIC ADDRESS LOUDSPEAKER;CHEERING MEGAPHONE;OUTBOX TRAY;
     INBOX TRAY;PACKAGE;E-MAIL y;INCOMING hk;hk w dw a b
   1F4EA|cl MAILBOX w |LOWERED FLAG;ra FLAG
   1F4EC|op MAILBOX w |ra FLAG;LOWERED FLAG
   1F4EE||POSTBOX;POSTAL HORN;NEWSPAPER;MOBILE PHONE;MOBILE PHONE w ri a AT e;VIBRATION MODE;MOBILE PHONE OFF;
     NO MOBILE PHONES;ANTENNA w BARS;CAMERA;CAMERA w FLASH;VIDEO CAMERA;TELEVISION;RADIO;VIDEOCASSETTE;FILM PROJECTOR;
     PORTABLE STEREO;PRAYER BEADS;TWISTED ri ax
   1F501|bq ri n le op ci ax|; w cr o oa
   1F503||bq dw n uw op ci ax;ak dw n uw op ci ax;lw BRIGHTNESS y;hi BRIGHTNESS y
   1F507|SPEAKER| w CANCELLATION st;; w o bu wa; w h bu WAVES
   1F50B||BATTERY;ELECTRIC PLUG;lf MAGNIFYING GLASS;rg MAGNIFYING GLASS;LOCK w INK PEN;cl LOCK w KEY;KEY;LOCK;
     op LOCK;BELL;BELL w CANCELLATION st;BOOKMARK;LINK y;RADIO BUTTON;BACK w le a b;END w le a b;ON w ex k w e r a b;
     SOON w ri a b;tg w uw a b;NO o UNDER ix y;KEYCAP te
   1F520|INPUT y fo |v c LETTERS;v m LETTERS;NUMBERS;SYMBOLS;v LETTERS
   1F525||FIRE;ELECTRIC TORCH;WRENCH;HAMMER;NUT n BOLT;HOCHO;PISTOL;MICROSCOPE;TELESCOPE;CRYSTAL BALL;
     si pi sa w mi i;JAPANESE y fo BEGINNER;TRIDENT EMBLEM;p sq BUTTON;z sq BUTTON;la RED ci;la BLUE ci
   1F536||la ;m |ORANGE dm;BLUE dm
   1F53A/|uo;gz| |RED ti;m RED ti
   1F53E||lo r fx z ci;up r fx z ci;cr cs POMMEE;cs POMMEE w HALF-CIRCLE g;cs POMMEE;nd e SEMICIRCLE w h dt;
     nd r SEMICIRCLE w h dt;y fo MARKS CHAPTER;z v cs;he v cs;CELTIC cs;OM y;DOVE OF PEACE;KAABA;MOSQUE;SYNAGOGUE;
     MENORAH w ni BRANCHES;BOWL OF HYGIEIA
   1F550|CLOCK fa |o oc;t oc;h oc;u oc;fi oc;si oc;se oc;ei oc;ni oc;te oc;ELEVEN oc;ej oc;ONE-THIRTY;TWO-THIRTY;
     THREE-THIRTY;FOUR-THIRTY;FIVE-THIRTY;SIX-THIRTY;SEVEN-THIRTY;EIGHT-THIRTY;NINE-THIRTY;TEN-THIRTY;ELEVEN-THIRTY;
     TWELVE-THIRTY
   1F568|r SPEAKER|; w o bu wa; w h bu WAVES
   1F56B|BULLHORN|; w bu WAVES
   1F56D||RINGING BELL;BOOK;CANDLE;MANTELPIECE CLOCK;p SKULL n CROSSBONES;NO PIRACY;HOLE;
     MAN IN BUSINESS SUIT LEVITATING;SLEUTH OR SPY;DARK SUNGLASSES;SPIDER;SPIDER WEB;JOYSTICK;MAN DANCING;
     e hn tz RECEIVER;tz RECEIVER w PAGE;r hn tz RECEIVER;z TOUCHTONE tz;p TOUCHTONE tz;tz ON tg OF MODEM;
     CLAMSHELL MOBILE PHONE;BACK OF hk;STAMPED hk;hk w LIGHTNING;FLYING hk;PEN ov STAMPED hk;LINKED PAPERCLIPS;
     p PUSHPIN
   1F589|lo e |PENCIL;BALLPOINT PEN;FOUNTAIN PEN;PAINTBRUSH;CRAYON
   1F58E||e WRITING hn;tr OK hn s;ra hn w fn SPLAYED;re ra hn w fn SPLAYED;re THUMBS UP s;re THUMBS do s;
     re VICTORY hn;re hn w mi FINGER iz;ra hn w PART bw mi n rn fn;z do po e hn id
   1F598|jh |z ;p |e po id;r po id
   1F59C|p |e po il id;r po il id
   1F59E|jh |z ;p |UP po id;do po id
   1F5A2||p UP po il id;p do po il id;p hb;DESKTOP COMPUTER;KEYBOARD n MOUSE;h NETWORKED COMPUTERS;PRINTER;
     POCKET CALCULATOR;p HARD af FLOPPY DISK;z HARD af FLOPPY DISK;SOFT af FLOPPY DISK;TAPE CARTRIDGE;WIRED KEYBOARD;
     o BUTTON MOUSE;t BUTTON MOUSE;h BUTTON MOUSE;TRACKBALL;ol PERSONAL COMPUTER;HARD DISK;SCREEN;PRINTER ICON;
     FAX ICON;OPTICAL DISC ICON
   1F5B9|DOCUMENT w |TEXT;TEXT n PICTURE;PICTURE
   1F5BC|FRAME w |PICTURE;TILES;AN X
   1F5BF||p FOLDER;FOLDER;op FOLDER;CARD id DIVIDERS;CARD FILE BOX;FILE CABINET
   1F5C5||EMPTY nc;nc|; PAGE; PAD
   1F5CB||EMPTY ;|DOCUMENT;PAGE;PAGES
   1F5D1||WASTEBASKET;SPIRAL nc PAD;SPIRAL CALENDAR PAD;DESKTOP WINDOW;MINIMIZE;MAXIMIZE;OVERLAP;
     bq r n e SEMICIRCLE ax;CANCELLATION X;INCREASE FONT SIZE y;DECREASE FONT SIZE y;COMPRESSION;ol KEY;
     ROLLED-UP NEWSPAPER;PAGE w cr TEXT;STOCK CHART;DAGGER KNIFE;LIPS;SPEAKING HEAD IN SILHOUETTE
   1F5E4|h RAYS |b;g;e;r
   1F5E8||e SPEECH BUBBLE;r SPEECH BUBBLE;t SPEECH BUBBLES;h SPEECH BUBBLES
   1F5EC/|e;r| |THOUGHT BUBBLE;ANGER BUBBLE
   1F5F0|MOOD BUBBLE|
   1F5F1|LIGHTNING MOOD| BUBBLE;
   1F5F3|BALLOT |BOX w BALLOT;sc X;BOX w sc X;bo sc X;BOX w bo sc X
   1F5F8||li CHECK k;BALLOT BOX w bo CHECK;WORLD MAP;MOUNT FUJI;TOKYO TOWER;STATUE OF LIBERTY;SILHOUETTE OF JAPAN;
     MOYAI;GRINNING fa;GRINNING fa w ag EYES;fa w TEARS OF JOY
   1F603|ag fa w op mt|; n ag EYES; n COLD SWEAT; n TIGHTLY-CLOSED EYES
   1F607|ag fa w H|ALO;ORNS
   1F609||WINKING fa;ag fa w ag EYES;fa SAVOURING DELICIOUS FOOD;RELIEVED fa;ag fa w HEART-SHAPED EYES;
     ag fa w SUNGLASSES;SMIRKING fa;nr fa;EXPRESSIONLESS fa;UNAMUSED fa;fa w COLD SWEAT;PENSIVE fa;CONFUSED fa;
     CONFOUNDED fa;KISSING fa;fa THROWING A KISS
   1F619|KISSING fa w |ag EYES;cl EYES
   1F61B|fa w STUCK-OUT TONGUE|; n WINKING EYE; n TIGHTLY-CLOSED EYES
   1F61E||DISAPPOINTED fa;WORRIED fa;ANGRY fa;POUTING fa;CRYING fa;PERSEVERING fa;fa w LOOK OF TRIUMPH;
     DISAPPOINTED BUT RELIEVED fa;FROWNING fa w op mt;ANGUISHED fa;FEARFUL fa;WEARY fa;SLEEPY fa;TIRED fa;
     GRIMACING fa;LOUDLY CRYING fa;fa w op mt;HUSHED fa;fa w op mt n COLD SWEAT;fa SCREAMING IN FEAR;ASTONISHED fa;
     FLUSHED fa;SLEEPING fa;DIZZY fa;fa WITHOUT mt;fa w MEDICAL MASK;GRINNING CAT fa w ag EYES;CAT fa w TEARS OF JOY;
     ag CAT fa w op mt;ag CAT fa w HEART-SHAPED EYES;CAT fa w WRY SMILE;KISSING CAT fa w cl EYES;POUTING CAT fa;
     CRYING CAT fa;WEARY CAT fa;SLIGHTLY FROWNING fa;SLIGHTLY ag fa;UPSIDE-DOWN fa;fa w ROLLING EYES;
     fa w NO GOOD GESTURE;fa w OK GESTURE;pr BOWING DEEPLY;SEE-NO-EVIL MONKEY;HEAR-NO-EVIL MONKEY;
     SPEAK-NO-EVIL MONKEY;HAPPY pr RAISING o hn
   1F64C|pr |RAISING BOTH HANDS IN CELEBRATION;FROWNING;w POUTING fa;w FOLDED HANDS
   1F650/|no;su| |ws po LEAF;ea po LEAF
   1F654/tr |no;su| |ws po LEAF;ea po LEAF
   1F658/|no;su| |ws po VINE LEAF;ea po VINE LEAF
   1F65C/he |no;su| |ws po VINE LEAF;ea po VINE LEAF
   1F660/|no;su| |ws po BUD;ea po BUD
   1F664/he |no;su| |ws po BUD;ea po BUD
   1F668||HOLLOW QUILT sq or;SOLID QUILT sq or|; IN p sq
   1F66C||le ROCKET;uw ROCKET;ri ROCKET;dw ROCKET;sc lg ET or;he sc lg ET or;lg op ET or;he lg op ET or;he ih or;
     SWASH ih or;ss he d tr cm qo k or;ss he d cm qo k or;ss he lw d cm qo k or;he INTERROBANG or;ss INTERROBANG or;
     he ss INTERROBANG or;vr he sw;vr he rv sw;CHECKER BOARD;rv CHECKER BOARD;ROCKET;HELICOPTER;STEAM LOCOMOTIVE;
     RAILWAY CAR
   1F684|HIGH-SPEED TRAIN|; w bx NOSE
   1F686||TRAIN;METRO;li RAIL;STATION;TRAM;TRAM CAR;BUS;ONCOMING BUS;TROLLEYBUS;BUS so;MINIBUS;AMBULANCE;
     FIRE ENGINE;POLICE CAR;ONCOMING POLICE CAR;TAXI;ONCOMING TAXI;AUTOMOBILE;ONCOMING AUTOMOBILE;
     RECREATIONAL VEHICLE;DELIVERY TRUCK
   1F69B||ARTICULATED LORRY;TRACTOR;MONORAIL;mb RAILWAY;SUSPENSION RAILWAY;mb CABLEWAY;AERIAL TRAMWAY;SHIP;ROWBOAT;
     SPEEDBOAT;hr TRAFFIC li;ve TRAFFIC li;CONSTRUCTION s;POLICE CARS REVOLVING li;tq FLAG ON POST;DOOR;NO ENTRY s;
     SMOKING y;NO SMOKING y;PUT LITTER IN ITS PLACE y;DO nt LITTER y;POTABLE wt y;NON-POTABLE wt y;BICYCLE;
     NO BICYCLES;BICYCLIST;mb BICYCLIST;PEDESTRIAN;NO PEDESTRIANS;CHILDREN cn;MENS y;WOMENS y;RESTROOM;BABY y;TOILET;
     wt CLOSET;SHOWER;BATH;BATHTUB;PASSPORT CONTROL;CUSTOMS;BAGGAGE CLAIM;e LUGGAGE;ti w ru CORNERS;PROHIBITED s;
     cr INFORMATION SOURCE;BOYS y;GIRLS y;COUCH n LAMP;SLEEPING ACCOMMODATION;SHOPPING BAGS;BELLHOP BELL;BED;
     PLACE OF WORSHIP;OCTAGONAL s;SHOPPING TROLLEY;STUPA;PAGODA;HINDU TEMPLE;HUT;ELEVATOR
   1F6DD||PLAYGROUND SLIDE;WHEEL;rn BUOY;HAMMER n WRENCH;SHIELD;OIL DRUM;MOTORWAY;RAILWAY TRACK;MOTOR BOAT;
     uo MILITARY AIRPLANE;uo AIRPLANE;uo m AIRPLANE;m AIRPLANE;NORTHEAST-POINTING AIRPLANE
   1F6EB|AIRPLANE |DEPARTURE;ARRIVING
   1F6F0||SATELLITE;ONCOMING FIRE ENGINE;DIESEL LOCOMOTIVE;PASSENGER SHIP;SCOOTER;MOTOR SCOOTER;CANOE;SLED;
     FLYING SAUCER;SKATEBOARD;AUTO RICKSHAW;PICKUP TRUCK;ROLLER SKATE
   1F700|ALCHEMICAL y fo |QUINTESSENCE;AIR;FIRE;EARTH;wt;AQUAFORTIS;AQUA REGIA;AQUA REGIA-2;AQUA VITAE;AQUA VITAE-2;
     VINEGAR;VINEGAR-2;VINEGAR-3;SULFUR;PHILOSOPHERS SULFUR;p SULFUR;MERCURY SUBLIMATE;MERCURY SUBLIMATE-2;
     MERCURY SUBLIMATE-3;CINNABAR;SALT;NITRE;VITRIOL;VITRIOL-2;ROCK SALT;ROCK SALT-2;GOLD;SILVER;IRON ORE;IRON ORE-2;
     CROCUS OF IRON;REGULUS OF IRON;COPPER ORE;IRON-COPPER ORE;SUBLIMATE OF COPPER;CROCUS OF COPPER;
     CROCUS OF COPPER-2;COPPER ANTIMONIATE;SALT OF COPPER ANTIMONIATE;SUBLIMATE OF SALT OF COPPER;VERDIGRIS;TIN ORE;
     LEAD ORE;ANTIMONY ORE;SUBLIMATE OF ANTIMONY;SALT OF ANTIMONY;SUBLIMATE OF SALT OF ANTIMONY;VINEGAR OF ANTIMONY;
     REGULUS OF ANTIMONY;REGULUS OF ANTIMONY-2;REGULUS;REGULUS-2;REGULUS-3;REGULUS-4;ALKALI;ALKALI-2;MARCASITE;
     SAL-AMMONIAC;ARSENIC;REALGAR;REALGAR-2;AURIPIGMENT;BISMUTH ORE;TARTAR;TARTAR-2;QUICK LIME;BORAX;BORAX-2;BORAX-3;
     ALUM;OIL;SPIRIT;TINCTURE;GUM;WAX;POWDER;CALX;TUTTY;CAPUT MORTUUM;SCEPTER OF JOVE;CADUCEUS;TRIDENT;
     STARRED TRIDENT;LODESTONE;SOAP;URINE;HORSE DUNG;ASHES;POT ASHES;BRICK;POWDERED BRICK;AMALGAM;
     STRATUM SUPER STRATUM;STRATUM SUPER STRATUM-2;SUBLIMATION;PRECIPITATE;DISTILL;DISSOLVE;DISSOLVE-2;PURIFY;
     PUTREFACTION;CRUCIBLE;CRUCIBLE-2;CRUCIBLE-3;CRUCIBLE-4;CRUCIBLE-5;ALEMBIC;BATH OF MARY;BATH OF VAPOURS;RETORT;
     HOUR;NIGHT;DAY-NIGHT;MONTH;ha DRAM;ha OUNCE
   1F780|p |lf ISOSCELES r ti;uo ISOSCELES r ti;rg ISOSCELES r ti;gz ISOSCELES r ti;SLIGHTLY m ci
   1F785||md bo z ci;bo z ci;he z ci;vr he z ci;EXTREMELY he z ci;z ci jn p m ci;ROUND TARGET;p TINY sq;
     p SLIGHTLY m sq;li z sq;md z sq;bo z sq;he z sq;vr he z sq;EXTREMELY he z sq;z sq jn p vr m sq;z sq jn p md sq;
     sq TARGET;p TINY dm;p vr m dm;p md m dm
   1F79A|z dm jn p |vr m dm;md dm
   1F79C||dm TARGET;p TINY lz;p vr m lz;p md m lz;z lz jn p m lz;THIN gr cs;li gr cs;md gr cs;bo gr cs;vr bo gr cs;
     vr he gr cs;EXTREMELY he gr cs;THIN ez;li ez;md ez;bo ez;he ez;vr he ez;EXTREMELY he ez;li fi aj at;md fi aj at;
     bo fi aj at;he fi aj at;vr he fi aj at;EXTREMELY he fi aj at;li si aj at;md si aj at;bo si aj at;he si aj at;
     vr he si aj at;EXTREMELY he si aj at;li ei aj at;md ei aj at;bo ei aj at;he ei aj at;vr he ei aj at;li h pi p sa;
     md h pi p sa;h pi p sa;md h pi pn sa;li u pi p sa;md u pi p sa;u pi p sa;md u pi pn sa;rv li u pi pn sa;
     li fi pi p sa;he fi pi p sa;md si pi p sa;he si pi p sa;si pi pn sa;md ei pi p sa;he ei pi p sa;vr he ei pi p sa;
     he ei pi pn sa;li ej pi p sa;he ej pi p sa;he ej pi pn sa;cr ti;nv cr ti;cr sq;nv cr sq
   1F7E0|la |ORANGE ci;YELLOW ci;GREEN ci;PURPLE ci;BROWN ci;RED sq;BLUE sq;ORANGE sq;YELLOW sq;GREEN sq;PURPLE sq;
     BROWN sq
   1F7F0|he eu s|
   1F800||le a w m ti ar;uw a w m ti ar;ri a w m ti ar;dw a w m ti ar;le a w md ti ar;uw a w md ti ar;
     ri a w md ti ar;dw a w md ti ar;le a w la ti ar;uw a w la ti ar;ri a w la ti ar;dw a w la ti ar
   1F810||le a w m el ar;uw a w m el ar;ri a w m el ar;dw a w m el ar;le a w el ar;uw a w el ar;ri a w el ar;
     dw a w el ar
   1F818|he |le a w el ar;uw a w el ar;ri a w el ar;dw a w el ar;le a w la el ar;uw a w la el ar;ri a w la el ar;
     dw a w la el ar
   1F820||le ta a w NARROW sm;uw ta a w NARROW sm;ri ta a w NARROW sm;dw ta a w NARROW sm;le ta a w md sm;
     uw ta a w md sm;ri ta a w md sm;dw ta a w md sm;le ta a w bo sm;uw ta a w bo sm;ri ta a w bo sm;dw ta a w bo sm;
     le ta a w he sm;uw ta a w he sm;ri ta a w he sm;dw ta a w he sm;le ta a w vr he sm;uw ta a w vr he sm;
     ri ta a w vr he sm;dw ta a w vr he sm;le FINGER-POST a;uw FINGER-POST a;ri FINGER-POST a;dw FINGER-POST a;
     le sd a;uw sd a;ri sd a;dw sd a;le im a;uw im a;ri im a;dw im a;le he im a;uw he im a;ri he im a;dw he im a;
     le he a;uw he a;ri he a;dw he a
   1F850||le ss a;uw ss a;ri ss a;dw ss a;no ws ss a;no ea ss a;su ea ss a;su ws ss a;e r ss a;UP do ss a
   1F860|WIDE-HEADED |le li br a;uw li br a;ri li br a;dw li br a;no ws li br a;no ea li br a;su ea li br a;
     su ws li br a;le br a;uw br a;ri br a;dw br a;no ws br a;no ea br a;su ea br a;su ws br a;le md br a;uw md br a;
     ri md br a;dw md br a;no ws md br a;no ea md br a;su ea md br a;su ws md br a;le he br a;uw he br a;ri he br a;
     dw he br a;no ws he br a;no ea he br a;su ea he br a;su ws he br a;le vr he br a;uw vr he br a;ri vr he br a;
     dw vr he br a;no ws vr he br a;no ea vr he br a;su ea vr he br a;su ws vr he br a
   1F890||le ti ar;uw ti ar;ri ti ar;dw ti ar;le z a WITHIN ti ar;uw z a WITHIN ti ar;ri z a WITHIN ti ar;
     dw z a WITHIN ti ar;le a w nd tc;uw a w nd tc;ri a w nd tc;dw a w nd tc
   1F89C|he a sm WIDTH |o;t THIRDS;o ha;o THIRD
   1F8A0||le BOTTOM-SHADED z a;ri bt SHADED z a;le tg SHADED z a;ri tg SHADED z a;le LEFT-SHADED z a;
     ri RIGHT-SHADED z a;le RIGHT-SHADED z a;ri LEFT-SHADED z a
   1F8A8/|le;ri| |BACK-TILTED fx z a;FRONT-TILTED fx z a
   1F8AC|z a sm WIDTH |o;t THIRDS
   1F8B0|a po |uw THEN no ws;ri THEN CURVING su ws
   1F900|cr cs FORMEE| w u dt; w t dt;
   1F903|e ha ci| w u dt; w h dt; w t dt; w i;
   1F908|DOWNWARD FACING |ho;nd ho;ho w i;nd ho w i
   1F90C||PINCHED fn;z hb;BROWN hb;PINCHING hn;ZIPPER-MOUTH fa;MONEY-MOUTH fa;fa w THERMOMETER;NERD fa;THINKING fa;
     fa w HEAD-BANDAGE;ROBOT fa;HUGGING fa;s OF tf HORNS;CALL ME hn;ra BACK OF hn;LEFT-FACING fs;RIGHT-FACING fs;
     HANDSHAKE;hn w id n mi fn er;I LOVE YOU hn s;fa w COWBOY HAT;CLOWN fa;NAUSEATED fa;ROLLING ON tf FLOOR LAUGHING;
     DROOLING fa;LYING fa;fa PALM;SNEEZING fa;fa w o EYEBROW ra;GRINNING fa w sa EYES;GRINNING fa w o la n o m EYE;
     fa w FINGER COVERING cl LIPS;SERIOUS fa w SYMBOLS COVERING mt;ag fa w ag EYES n hn COVERING mt;
     fa w op mt VOMITING;SHOCKED fa w EXPLODING HEAD;PREGNANT WOMAN;BREAST-FEEDING;PALMS UP TOGETHER;SELFIE;PRINCE;
     MAN IN TUXEDO
   1F936||MOTHER CHRISTMAS;SHRUG;pr DOING CARTWHEEL;JUGGLING;FENCER;MODERN PENTATHLON;WRESTLERS;wt POLO;HANDBALL;
     DIVING MASK;WILTED FLOWER;DRUM w DRUMSTICKS;CLINKING GLASSES;TUMBLER GLASS;SPOON;GOAL NET;RIFLE;
     FIRST PLACE MEDAL;SECOND PLACE MEDAL;THIRD PLACE MEDAL;BOXING GLOVE;MARTIAL ARTS UNIFORM;CURLING STONE;
     LACROSSE STICK n BALL;SOFTBALL;FLYING DISC;CROISSANT;AVOCADO;CUCUMBER;BACON;POTATO;CARROT;BAGUETTE BREAD;
     GREEN SALAD;SHALLOW PAN OF FOOD;STUFFED FLATBREAD;EGG;GLASS OF MILK;PEANUTS;KIWIFRUIT;PANCAKES;DUMPLING;
     FORTUNE COOKIE;TAKEOUT BOX;CHOPSTICKS;BOWL w SPOON;CUP w STRAW;COCONUT;BROCCOLI;PIE;PRETZEL;CUT OF MEAT;SANDWICH;
     CANNED FOOD;LEAFY GREEN;MANGO;mn CAKE;BAGEL;ag fa w ag EYES n h hs;YAWNING fa;ag fa w TEAR
   1F973||fa w PARTY HORN n PARTY HAT;fa w UNEVEN EYES n WAVY mt;OVERHEATED fa;FREEZING fa;NINJA;DISGUISED fa;
     fa HOLDING BACK TEARS;fa w PLEADING EYES;SARI;LAB COAT;GOGGLES;HIKING BOOT;FLAT SHOE;CRAB;LION fa;SCORPION;
     TURKEY;UNICORN fa;EAGLE;DUCK;BAT;SHARK;OWL;FOX fa;BUTTERFLY;DEER;GORILLA;LIZARD;RHINOCEROS;SHRIMP;SQUID;
     GIRAFFE fa;ZEBRA fa;HEDGEHOG;SAUROPOD;T-REX;CRICKET;KANGAROO;LLAMA;PEACOCK;HIPPOPOTAMUS;PARROT;RACCOON;LOBSTER;
     MOSQUITO;MICROBE;BADGER;SWAN;MAMMOTH;DODO;SLOTH;OTTER;ORANGUTAN;SKUNK;FLAMINGO;OYSTER;BEAVER;BISON;SEAL;
     GUIDE DOG;PROBING CANE
   1F9B0|EMOJI COMPONENT |RED HAIR;cq HAIR;BALD;z HAIR
   1F9B4||BONE;LEG;FOOT;TOOTH;SUPERHERO;SUPERVILLAIN;SAFETY VEST;EAR w HEARING AID;MOTORIZED WHEELCHAIR;
     MANUAL WHEELCHAIR;MECHANICAL ARM;MECHANICAL LEG;CHEESE WEDGE;CUPCAKE;SALT SHAKER;BEVERAGE BOX;GARLIC;ONION;
     FALAFEL;WAFFLE;BUTTER;MATE DRINK;ICE CUBE;BUBBLE TEA;TROLL;STANDING pr;KNEELING pr;DEAF pr;fa w MONOCLE;ADULT;
     CHILD;OLDER ADULT;BEARDED pr
   1F9D5|pr |w HEADSCARF;IN STEAMY ROOM;CLIMBING;IN LOTUS POSITION
   1F9D9||MAGE;FAIRY;VAMPIRE;MERPERSON;ELF;GENIE;ZOMBIE;BRAIN;ORANGE hb;BILLED CAP;SCARF;GLOVES;COAT;SOCKS;
     RED GIFT hk;FIRECRACKER;JIGSAW PUZZLE PIECE;TEST TUBE;PETRI dk;DNA d HELIX;COMPASS;ABACUS;FIRE EXTINGUISHER;
     TOOLBOX;BRICK;MAGNET;LUGGAGE;LOTION BOTTLE;SPOOL OF THREAD;BALL OF YARN;SAFETY PIN;TEDDY BEAR;BROOM;BASKET;
     ROLL OF PAPER;ba OF SOAP;SPONGE;RECEIPT;NAZAR AMULET
   1FA00|nr cb |KING;QUEEN;ROOK;BISHOP;kn;PAWN
   1FA06||z cb kn ro FORTY-FIVE dr;p cb kn ro FORTY-FIVE dr;nr cb kn ro FORTY-FIVE dr
   1FA09||z cb ;p cb ;nr cb |KING ro ne dr;QUEEN ro ne dr;ROOK ro ne dr;BISHOP ro ne dr;kn ro ne dr;PAWN ro ne dr
   1FA1B||z cb kn ro o hu THIRTY-FIVE dr;p cb kn ro o hu THIRTY-FIVE dr;nr cb kn ro o hu THIRTY-FIVE dr
   1FA1E||z cb tr ;p cb tr ;nr cb tr |KING;QUEEN;ROOK;BISHOP;kn;PAWN
   1FA30||z cb kn ro t hu TWENTY-FIVE dr;p cb kn ro t hu TWENTY-FIVE dr;nr cb kn ro t hu TWENTY-FIVE dr
   1FA33||z cb ;p cb ;nr cb |KING ro t hu sv dr;QUEEN ro t hu sv dr;ROOK ro t hu sv dr;BISHOP ro t hu sv dr;
     kn ro t hu sv dr;PAWN ro t hu sv dr
   1FA45||z cb kn ro h hu fq dr;p cb kn ro h hu fq dr;nr cb kn ro h hu fq dr;z cb jv;p cb jv;nr cb jv;
     z cb jv ro ne dr;p cb jv ro ne dr;nr cb jv ro ne dr
   1FA4E||z cb KNIGHT-;p cb KNIGHT-|QUEEN;ROOK;BISHOP
   1FA60|XIANGQI |RED ;p |GENERAL;MANDARIN;ELEPHANT;HORSE;CHARIOT;CANNON;SOLDIER
   1FA70||BALLET SHOES;ONE-PIECE SWIMSUIT;BRIEFS;SHORTS;THONG SANDAL
   1FA78||DROP OF BLOOD;ADHESIVE BANDAGE;STETHOSCOPE;X-RAY;CRUTCH
   1FA80||YO-YO;KITE;PARACHUTE;BOOMERANG;MAGIC WAND;PINATA;NESTING DOLLS
   1FA90||RINGED PLANET;CHAIR;RAZOR;AXE;DIYA LAMP;BANJO;MILITARY HELMET;ACCORDION;ln DRUM;COIN;CARPENTRY SAW;
     SCREWDRIVER;LADDER;ho;MIRROR;WINDOW;PLUNGER;SEWING NEEDLE;KNOT;BUCKET;MOUSE TRAP;TOOTHBRUSH;HEADSTONE;PLACARD;
     ROCK;MIRROR BALL;IDENTIFICATION CARD;lw BATTERY;HAMSA
   1FAB0||FLY;WORM;BEETLE;COCKROACH;POTTED PLANT;WOOD;FEATHER;LOTUS;CORAL;EMPTY NEST;NEST w EGGS
   1FAC0||ANATOMICAL hb;LUNGS;PEOPLE HUGGING;PREGNANT MAN;PREGNANT pr;pr w CROWN
   1FAD0||BLUEBERRIES;BELL PEPPER;OLIVE;FLATBREAD;TAMALE;FONDUE;TEAPOT;POURING LIQUID;BEANS;JAR
   1FAE0||MELTING fa;SALUTING fa;fa w op EYES n hn ov mt;fa w PEEKING EYE;fa w da mt;dc lb fa;BITING LIP;BUBBLES
   1FAF0||hn w id FINGER n tu er;ri hn;le hn;PALM do hn;PALM UP hn;id po AT tf VIEWER;hb HANDS
   1FB00|bl SEXTANT-|1;2;12;3;13;23;123;4;14;24;124;34;134;234;1234;5;15;25;125;35;235;1235;45;145;245;1245;345;
     1345;2345;12345;6;16;26;126;36;136;236;1236;46;146;1246;346;1346;2346;12346;56;156;256;1256;356;1356;2356;12356;
     456;1456;2456;12456;3456;13456;23456
   1FB3C|lo e bl da |lo mi e TO lo ;up mi e TO lo |ce;r
   1FB40|lo e bl da up e TO lo ce|
   1FB41|lo r bl da |up mi e TO up ;lo mi e TO up |ce;r
   1FB45|lo r bl da lo |e TO up ce;mi e TO up mi r;ce TO lo mi r;e TO lo mi r;ce TO up mi r;e TO up mi r;ce TO up r
   1FB4C/lo e bl da up |ce;e| TO |up mi r;lo mi r
   1FB50|lo e bl da up |ce TO lo r;mi e TO lo mi r
   1FB52|up r bl da |lo mi e TO lo ;up mi e TO lo |ce;r
   1FB56|up r bl da up e TO lo ce|
   1FB57|up e bl da |up mi e TO up ;lo mi e TO up |ce;r
   1FB5B|up e bl da lo |e TO up ce;mi e TO up mi r;ce TO lo mi r;e TO lo mi r;ce TO up mi r;e TO up mi r;ce TO up r
   1FB62/up r bl da up |ce;e| TO |up mi r;lo mi r
   1FB66|up r bl da up |ce TO lo r;mi e TO lo mi r
   1FB68||up n r n lo tq h qr bl;e n lo n r tq h qr bl;up n e n lo tq h qr bl;e n up n r tq h qr bl;e tq o qu bl;
     up tq o qu bl;r tq o qu bl;lo tq o qu bl
   1FB70||ve o eh BLOCK-;hr o eh BLOCK-|2;3;4;5;6;7
   1FB7C||e n lo o eh bl;e n up o eh bl;r n up o eh bl;r n lo o eh bl;up n lo o eh bl;hr o eh BLOCK-1358
   1FB82||up ;r |o qu bl;h es bl;fi es bl;h qr bl;se es bl
   1FB8C||e ha md bs;r ha md bs;up ha md bs;lo ha md bs;ib md bs;up ha bl n lo ha ib md bs;up ha ib md bs n lo ha bl
   1FB94||e ha ib md bs n r ha bl;CHECKER BOARD FILL;ib CHECKER BOARD FILL;he hr FILL;up e TO lo r FILL;
     up r TO lo e FILL;up n lo tq ha bl;e n r tq ha bl;up e tq md bs;up r tq md bs;lo r tq md bs;lo e tq md bs
   1FBA0|BOX ec li da up ce TO mi |e;r
   1FBA2|BOX ec li da |mi ;up ce TO mi |e TO lo ce;r TO lo ce
   1FBA6|BOX ec li da mi e TO |lo ce TO mi r;up ce TO mi r
   1FBA8|BOX ec li da up ce TO mi |e n mi r TO lo ce;r n mi e TO lo ce;r TO lo ce TO mi e;e TO lo ce TO mi r
   1FBAC|BOX ec li |da mi e TO up ce TO mi r TO lo ce;da mi r TO up ce TO mi e TO lo ce;da dm;hr w ve st
   1FBB0||ARROWHEAD-SHAPED POINTER;ib CHECK k;e ha RUNNING MAN;r ha RUNNING MAN;ib dw a w TIP le;
     le a n up n lo o eh bl;ri a n up n lo o eh bl;dw a n r o eh bl;uw a n r o eh bl;e ha FOLDER;r ha FOLDER;
     VOIDED gr cs;r op sd i;nv da cs;nv da mi r TO lo ce;nv da dm;z he ez w ru CORNERS;e THIRD z r po id;
     mi THIRD z r po id;r THIRD z r po id;nv sd qe k
   1FBC5|STICK FIGURE|; w ARMS ra; LEANING e; LEANING r; w DRESS
   1FBCA|z uo CHEVRON|
   1FBF0|SEGMENTED di |ze;o;t;h;u;fi;si;se;ei;ni
   E0001|LANGUAGE TAG|
   E0020|TAG |ab;ex k;qo k;nu s;DOLLAR s;PERCENT s;ih;gq;e pa;r pa;at;pl s;cm;HYPHEN-MINUS;fu so;sw
   E0030|TAG di |ze;o;t;h;u;fi;si;se;ei;ni
   E003A|TAG |cd;ee;ls s;eu s;ge s;qe k;COMMERCIAL AT
   E0041|TAG v c l |A;B;C;D;E;F;G;H;I;J;K;L;M;N;O;P;Q;R;S;T;U;V;W;X;Y;Z
   E005B|TAG |e sq bc;rv sw;r sq bc;cc ae;lw lb;ga ae
   E0061|TAG v m l |A;B;C;D;E;F;G;H;I;J;K;L;M;N;O;P;Q;R;S;T;U;V;W;X;Y;Z
   E007B|TAG |e cq bc;ve lb;r cq bc;tl
   E007F|CANCEL TAG|
   E0100|vb SELECTOR-1|7;8;9
   E0103|vb SELECTOR-|2;3;4;5;6;7;8;9;10;11;12;13;14;15;16;17;18;19;20;21;22;23;24|0;1;2;3;4;5;6;7;8;9
   E01E9|vb SELECTOR-25|0;1;2;3;4;5;6"

end FloScript.Text.CharName
