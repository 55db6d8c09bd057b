import Conformance.Text.CharacterName.Basic

/-!
# Names of digits and signs

## Main Definitions

* `Text.signNames` — the names of the digits of all scripts, of punctuation, symbols, and the Japanese syllables
-/

namespace Conformance.Text

/-- The names of the digits of all scripts, of punctuation, currency, arrows, mathematical and technical
signs, shapes and dingbats, and of the Japanese syllables. -/
def signNames : List NameRun :=
  [
    ⟨[("DIGIT ", 0x30), ("ARABIC-INDIC DIGIT ", 0x660), ("EXTENDED ARABIC-INDIC DIGIT ", 0x6f0),
      ("NKO DIGIT ", 0x7c0), ("DEVANAGARI DIGIT ", 0x966), ("BENGALI DIGIT ", 0x9e6),
      ("GURMUKHI DIGIT ", 0xa66), ("GUJARATI DIGIT ", 0xae6), ("ORIYA DIGIT ", 0xb66),
      ("TAMIL DIGIT ", 0xbe6), ("TELUGU DIGIT ", 0xc66), ("KANNADA DIGIT ", 0xce6),
      ("MALAYALAM DIGIT ", 0xd66), ("SINHALA LITH DIGIT ", 0xde6), ("THAI DIGIT ", 0xe50),
      ("LAO DIGIT ", 0xed0), ("TIBETAN DIGIT ", 0xf20), ("MYANMAR DIGIT ", 0x1040),
      ("MYANMAR SHAN DIGIT ", 0x1090), ("KHMER DIGIT ", 0x17e0), ("MONGOLIAN DIGIT ", 0x1810),
      ("LIMBU DIGIT ", 0x1946), ("NEW TAI LUE DIGIT ", 0x19d0), ("TAI THAM HORA DIGIT ", 0x1a80),
      ("TAI THAM THAM DIGIT ", 0x1a90), ("BALINESE DIGIT ", 0x1b50), ("SUNDANESE DIGIT ", 0x1bb0),
      ("LEPCHA DIGIT ", 0x1c40), ("OL CHIKI DIGIT ", 0x1c50), ("VAI DIGIT ", 0xa620),
      ("SAURASHTRA DIGIT ", 0xa8d0), ("KAYAH LI DIGIT ", 0xa900), ("JAVANESE DIGIT ", 0xa9d0),
      ("MYANMAR TAI LAING DIGIT ", 0xa9f0), ("CHAM DIGIT ", 0xaa50), ("MEETEI MAYEK DIGIT ", 0xabf0),
      ("FULLWIDTH DIGIT ", 0xff10), ("OSMANYA DIGIT ", 0x104a0), ("HANIFI ROHINGYA DIGIT ", 0x10d30),
      ("BRAHMI DIGIT ", 0x11066), ("SORA SOMPENG DIGIT ", 0x110f0), ("CHAKMA DIGIT ", 0x11136),
      ("SHARADA DIGIT ", 0x111d0), ("KHUDAWADI DIGIT ", 0x112f0), ("NEWA DIGIT ", 0x11450),
      ("TIRHUTA DIGIT ", 0x114d0), ("MODI DIGIT ", 0x11650), ("TAKRI DIGIT ", 0x116c0),
      ("AHOM DIGIT ", 0x11730), ("WARANG CITI DIGIT ", 0x118e0), ("DIVES AKURU DIGIT ", 0x11950),
      ("BHAIKSUKI DIGIT ", 0x11c50), ("MASARAM GONDI DIGIT ", 0x11d50),
      ("GUNJALA GONDI DIGIT ", 0x11da0), ("MRO DIGIT ", 0x16a60), ("TANGSA DIGIT ", 0x16ac0),
      ("PAHAWH HMONG DIGIT ", 0x16b50), ("MATHEMATICAL BOLD DIGIT ", 0x1d7ce),
      ("MATHEMATICAL DOUBLE-STRUCK DIGIT ", 0x1d7d8), ("MATHEMATICAL SANS-SERIF DIGIT ", 0x1d7e2),
      ("MATHEMATICAL SANS-SERIF BOLD DIGIT ", 0x1d7ec), ("MATHEMATICAL MONOSPACE DIGIT ", 0x1d7f6),
      ("NYIAKENG PUACHUE HMONG DIGIT ", 0x1e140), ("WANCHO DIGIT ", 0x1e2f0), ("ADLAM DIGIT ", 0x1e950),
      ("SEGMENTED DIGIT ", 0x1fbf0), ("MEDEFAIDRIN DIGIT ", 0x16e80)], 1,
      ["ZERO;ONE;TWO;THREE;FOUR;FIVE;SIX;SEVEN;EIGHT;NINE"]⟩,
    ⟨[("", 0x2000)], 1,
      ["EN QUAD;EM QUAD;EN SPACE;EM SPACE;THREE-PER-EM SPACE;FOUR-PER-EM SPACE;SIX-PER-EM SPACE",
        "FIGURE SPACE;PUNCTUATION SPACE;THIN SPACE;HAIR SPACE;ZERO WIDTH SPACE;ZERO WIDTH NON-JOINER",
        "ZERO WIDTH JOINER;LEFT-TO-RIGHT MARK;RIGHT-TO-LEFT MARK;HYPHEN;NON-BREAKING HYPHEN;FIGURE DASH",
        "EN DASH;EM DASH;HORIZONTAL BAR;DOUBLE VERTICAL LINE;DOUBLE LOW LINE;LEFT SINGLE QUOTATION MARK",
        "RIGHT SINGLE QUOTATION MARK;SINGLE LOW-9 QUOTATION MARK;SINGLE HIGH-REVERSED-9 QUOTATION MARK",
        "LEFT DOUBLE QUOTATION MARK;RIGHT DOUBLE QUOTATION MARK;DOUBLE LOW-9 QUOTATION MARK",
        "DOUBLE HIGH-REVERSED-9 QUOTATION MARK;DAGGER;DOUBLE DAGGER;BULLET;TRIANGULAR BULLET",
        "ONE DOT LEADER;TWO DOT LEADER;HORIZONTAL ELLIPSIS;HYPHENATION POINT;LINE SEPARATOR",
        "PARAGRAPH SEPARATOR;LEFT-TO-RIGHT EMBEDDING;RIGHT-TO-LEFT EMBEDDING;POP DIRECTIONAL FORMATTING",
        "LEFT-TO-RIGHT OVERRIDE;RIGHT-TO-LEFT OVERRIDE;NARROW NO-BREAK SPACE;PER MILLE SIGN",
        "PER TEN THOUSAND SIGN;PRIME;DOUBLE PRIME;TRIPLE PRIME;REVERSED PRIME;REVERSED DOUBLE PRIME",
        "REVERSED TRIPLE PRIME;CARET;SINGLE LEFT-POINTING ANGLE QUOTATION MARK",
        "SINGLE RIGHT-POINTING ANGLE QUOTATION MARK;REFERENCE MARK;DOUBLE EXCLAMATION MARK;INTERROBANG",
        "OVERLINE;UNDERTIE;CHARACTER TIE;CARET INSERTION POINT;ASTERISM;HYPHEN BULLET;FRACTION SLASH",
        "LEFT SQUARE BRACKET WITH QUILL;RIGHT SQUARE BRACKET WITH QUILL;DOUBLE QUESTION MARK",
        "QUESTION EXCLAMATION MARK;EXCLAMATION QUESTION MARK;TIRONIAN SIGN ET;REVERSED PILCROW SIGN",
        "BLACK LEFTWARDS BULLET;BLACK RIGHTWARDS BULLET;LOW ASTERISK;REVERSED SEMICOLON;CLOSE UP",
        "TWO ASTERISKS ALIGNED VERTICALLY;COMMERCIAL MINUS SIGN;SWUNG DASH;INVERTED UNDERTIE",
        "FLOWER PUNCTUATION MARK;THREE DOT PUNCTUATION;QUADRUPLE PRIME;FOUR DOT PUNCTUATION",
        "FIVE DOT PUNCTUATION;TWO DOT PUNCTUATION;FOUR DOT MARK;DOTTED CROSS;TRICOLON;VERTICAL FOUR DOTS",
        "MEDIUM MATHEMATICAL SPACE;WORD JOINER;FUNCTION APPLICATION"]⟩,
    ⟨[("INVISIBLE ", 0x2062)], 1, ["TIMES;SEPARATOR;PLUS"]⟩,
    ⟨[("", 0x2066)], 1,
      ["LEFT-TO-RIGHT ISOLATE;RIGHT-TO-LEFT ISOLATE;FIRST STRONG ISOLATE;POP DIRECTIONAL ISOLATE",
        "INHIBIT SYMMETRIC SWAPPING;ACTIVATE SYMMETRIC SWAPPING;INHIBIT ARABIC FORM SHAPING",
        "ACTIVATE ARABIC FORM SHAPING;NATIONAL DIGIT SHAPES;NOMINAL DIGIT SHAPES;SUPERSCRIPT ZERO",
        "SUPERSCRIPT LATIN SMALL LETTER I"]⟩,
    ⟨[("SUPERSCRIPT ", 0x2074)], 1,
      ["FOUR;FIVE;SIX;SEVEN;EIGHT;NINE;PLUS SIGN;MINUS;EQUALS SIGN;LEFT PARENTHESIS;RIGHT PARENTHESIS",
        "LATIN SMALL LETTER N"]⟩,
    ⟨[("SUBSCRIPT ", 0x2080)], 1,
      ["ZERO;ONE;TWO;THREE;FOUR;FIVE;SIX;SEVEN;EIGHT;NINE;PLUS SIGN;MINUS;EQUALS SIGN;LEFT PARENTHESIS",
        "RIGHT PARENTHESIS"]⟩,
    ⟨[("LATIN SUBSCRIPT SMALL LETTER ", 0x2090)], 1, ["A;E;O;X;SCHWA;H;K;L;M;N;P;S;T"]⟩,
    ⟨[("", 0x20a0)], 1,
      ["EURO-CURRENCY SIGN;COLON SIGN;CRUZEIRO SIGN;FRENCH FRANC SIGN;LIRA SIGN;MILL SIGN;NAIRA SIGN",
        "PESETA SIGN;RUPEE SIGN;WON SIGN;NEW SHEQEL SIGN;DONG SIGN;EURO SIGN;KIP SIGN;TUGRIK SIGN",
        "DRACHMA SIGN;GERMAN PENNY SIGN;PESO SIGN;GUARANI SIGN;AUSTRAL SIGN;HRYVNIA SIGN;CEDI SIGN",
        "LIVRE TOURNOIS SIGN;SPESMILO SIGN;TENGE SIGN;INDIAN RUPEE SIGN;TURKISH LIRA SIGN;NORDIC MARK SIGN",
        "MANAT SIGN;RUBLE SIGN;LARI SIGN;BITCOIN SIGN;SOM SIGN"]⟩,
    ⟨[("COMBINING ", 0x20d0)], 1,
      ["LEFT HARPOON ABOVE;RIGHT HARPOON ABOVE;LONG VERTICAL LINE OVERLAY;SHORT VERTICAL LINE OVERLAY",
        "ANTICLOCKWISE ARROW ABOVE;CLOCKWISE ARROW ABOVE;LEFT ARROW ABOVE;RIGHT ARROW ABOVE;RING OVERLAY",
        "CLOCKWISE RING OVERLAY;ANTICLOCKWISE RING OVERLAY;THREE DOTS ABOVE;FOUR DOTS ABOVE",
        "ENCLOSING CIRCLE;ENCLOSING SQUARE;ENCLOSING DIAMOND;ENCLOSING CIRCLE BACKSLASH",
        "LEFT RIGHT ARROW ABOVE;ENCLOSING SCREEN;ENCLOSING KEYCAP;ENCLOSING UPWARD POINTING TRIANGLE",
        "REVERSE SOLIDUS OVERLAY;DOUBLE VERTICAL STROKE OVERLAY;ANNUITY SYMBOL;TRIPLE UNDERDOT",
        "WIDE BRIDGE ABOVE;LEFTWARDS ARROW OVERLAY;LONG DOUBLE SOLIDUS OVERLAY",
        "RIGHTWARDS HARPOON WITH BARB DOWNWARDS;LEFTWARDS HARPOON WITH BARB DOWNWARDS;LEFT ARROW BELOW",
        "RIGHT ARROW BELOW;ASTERISK ABOVE"]⟩,
    ⟨[("", 0x2100)], 1,
      ["ACCOUNT OF;ADDRESSED TO THE SUBJECT;DOUBLE-STRUCK CAPITAL C;DEGREE CELSIUS;CENTRE LINE SYMBOL",
        "CARE OF;CADA UNA;EULER CONSTANT;SCRUPLE;DEGREE FAHRENHEIT;SCRIPT SMALL G;SCRIPT CAPITAL H",
        "BLACK-LETTER CAPITAL H;DOUBLE-STRUCK CAPITAL H;PLANCK CONSTANT;PLANCK CONSTANT OVER TWO PI",
        "SCRIPT CAPITAL I;BLACK-LETTER CAPITAL I;SCRIPT CAPITAL L;SCRIPT SMALL L;L B BAR SYMBOL",
        "DOUBLE-STRUCK CAPITAL N;NUMERO SIGN;SOUND RECORDING COPYRIGHT;SCRIPT CAPITAL P",
        "DOUBLE-STRUCK CAPITAL P;DOUBLE-STRUCK CAPITAL Q;SCRIPT CAPITAL R;BLACK-LETTER CAPITAL R",
        "DOUBLE-STRUCK CAPITAL R;PRESCRIPTION TAKE;RESPONSE;SERVICE MARK;TELEPHONE SIGN;TRADE MARK SIGN",
        "VERSICLE;DOUBLE-STRUCK CAPITAL Z;OUNCE SIGN;OHM SIGN;INVERTED OHM SIGN;BLACK-LETTER CAPITAL Z",
        "TURNED GREEK SMALL LETTER IOTA;KELVIN SIGN;ANGSTROM SIGN;SCRIPT CAPITAL B;BLACK-LETTER CAPITAL C",
        "ESTIMATED SYMBOL;SCRIPT SMALL E;SCRIPT CAPITAL E;SCRIPT CAPITAL F"]⟩,
    ⟨[("TURNED CAPITAL ", 0x2132), ("TURNED SMALL ", 0x214e)], 1, ["F"]⟩,
    ⟨[("", 0x2133)], 1,
      ["SCRIPT CAPITAL M;SCRIPT SMALL O;ALEF SYMBOL;BET SYMBOL;GIMEL SYMBOL;DALET SYMBOL",
        "INFORMATION SOURCE;ROTATED CAPITAL Q;FACSIMILE SIGN"]⟩,
    ⟨[("DOUBLE-STRUCK ", 0x213c)], 1, ["SMALL PI;SMALL GAMMA;CAPITAL GAMMA;CAPITAL PI;N-ARY SUMMATION"]⟩,
    ⟨[("TURNED SANS-SERIF CAPITAL ", 0x2141)], 1, ["G;L"]⟩,
    ⟨[("", 0x2143)], 1, ["REVERSED SANS-SERIF CAPITAL L;TURNED SANS-SERIF CAPITAL Y"]⟩,
    ⟨[("DOUBLE-STRUCK ITALIC ", 0x2145)], 1, ["CAPITAL D;SMALL D;SMALL E;SMALL I;SMALL J"]⟩,
    ⟨[("", 0x214a)], 1, ["PROPERTY LINE;TURNED AMPERSAND;PER SIGN;AKTIESELSKAB"]⟩,
    ⟨[("", 0x214f)], 1, ["SYMBOL FOR SAMARITAN SOURCE"]⟩,
    ⟨[("VULGAR FRACTION ", 0x2150)], 1,
      ["ONE SEVENTH;ONE NINTH;ONE TENTH;ONE THIRD;TWO THIRDS;ONE FIFTH;TWO FIFTHS;THREE FIFTHS",
        "FOUR FIFTHS;ONE SIXTH;FIVE SIXTHS;ONE EIGHTH;THREE EIGHTHS;FIVE EIGHTHS;SEVEN EIGHTHS"]⟩,
    ⟨[("", 0x215f)], 1, ["FRACTION NUMERATOR ONE"]⟩,
    ⟨[("ROMAN NUMERAL ", 0x2160), ("SMALL ROMAN NUMERAL ", 0x2170)], 1,
      ["ONE;TWO;THREE;FOUR;FIVE;SIX;SEVEN;EIGHT;NINE;TEN;ELEVEN;TWELVE;FIFTY;ONE HUNDRED;FIVE HUNDRED",
        "ONE THOUSAND"]⟩,
    ⟨[("ROMAN NUMERAL ", 0x2180)], 1, ["ONE THOUSAND C D;FIVE THOUSAND;TEN THOUSAND;REVERSED ONE HUNDRED"]⟩,
    ⟨[("", 0x2184)], 1, ["LATIN SMALL LETTER REVERSED C"]⟩,
    ⟨[("ROMAN NUMERAL ", 0x2185)], 1,
      ["SIX LATE FORM;FIFTY EARLY FORM;FIFTY THOUSAND;ONE HUNDRED THOUSAND"]⟩,
    ⟨[("", 0x2189)], 1, ["VULGAR FRACTION ZERO THIRDS;TURNED DIGIT TWO;TURNED DIGIT THREE"]⟩,
    ⟨[("", 0x2190)], 1,
      ["LEFTWARDS ARROW;UPWARDS ARROW;RIGHTWARDS ARROW;DOWNWARDS ARROW;LEFT RIGHT ARROW;UP DOWN ARROW",
        "NORTH WEST ARROW;NORTH EAST ARROW;SOUTH EAST ARROW;SOUTH WEST ARROW;LEFTWARDS ARROW WITH STROKE",
        "RIGHTWARDS ARROW WITH STROKE;LEFTWARDS WAVE ARROW;RIGHTWARDS WAVE ARROW",
        "LEFTWARDS TWO HEADED ARROW;UPWARDS TWO HEADED ARROW;RIGHTWARDS TWO HEADED ARROW",
        "DOWNWARDS TWO HEADED ARROW;LEFTWARDS ARROW WITH TAIL;RIGHTWARDS ARROW WITH TAIL",
        "LEFTWARDS ARROW FROM BAR;UPWARDS ARROW FROM BAR;RIGHTWARDS ARROW FROM BAR",
        "DOWNWARDS ARROW FROM BAR;UP DOWN ARROW WITH BASE;LEFTWARDS ARROW WITH HOOK",
        "RIGHTWARDS ARROW WITH HOOK;LEFTWARDS ARROW WITH LOOP;RIGHTWARDS ARROW WITH LOOP",
        "LEFT RIGHT WAVE ARROW;LEFT RIGHT ARROW WITH STROKE;DOWNWARDS ZIGZAG ARROW",
        "UPWARDS ARROW WITH TIP LEFTWARDS;UPWARDS ARROW WITH TIP RIGHTWARDS",
        "DOWNWARDS ARROW WITH TIP LEFTWARDS;DOWNWARDS ARROW WITH TIP RIGHTWARDS",
        "RIGHTWARDS ARROW WITH CORNER DOWNWARDS;DOWNWARDS ARROW WITH CORNER LEFTWARDS",
        "ANTICLOCKWISE TOP SEMICIRCLE ARROW;CLOCKWISE TOP SEMICIRCLE ARROW;NORTH WEST ARROW TO LONG BAR",
        "LEFTWARDS ARROW TO BAR OVER RIGHTWARDS ARROW TO BAR;ANTICLOCKWISE OPEN CIRCLE ARROW",
        "CLOCKWISE OPEN CIRCLE ARROW"]⟩,
    ⟨[("LEFTWARDS HARPOON WITH BARB ", 0x21bc), ("RIGHTWARDS HARPOON WITH BARB ", 0x21c0)], 1,
      ["UPWARDS;DOWNWARDS"]⟩,
    ⟨[("UPWARDS HARPOON WITH BARB ", 0x21be), ("DOWNWARDS HARPOON WITH BARB ", 0x21c2)], 1,
      ["RIGHTWARDS;LEFTWARDS"]⟩,
    ⟨[("", 0x21c4)], 1,
      ["RIGHTWARDS ARROW OVER LEFTWARDS ARROW;UPWARDS ARROW LEFTWARDS OF DOWNWARDS ARROW",
        "LEFTWARDS ARROW OVER RIGHTWARDS ARROW;LEFTWARDS PAIRED ARROWS;UPWARDS PAIRED ARROWS",
        "RIGHTWARDS PAIRED ARROWS;DOWNWARDS PAIRED ARROWS;LEFTWARDS HARPOON OVER RIGHTWARDS HARPOON",
        "RIGHTWARDS HARPOON OVER LEFTWARDS HARPOON;LEFTWARDS DOUBLE ARROW WITH STROKE",
        "LEFT RIGHT DOUBLE ARROW WITH STROKE;RIGHTWARDS DOUBLE ARROW WITH STROKE;LEFTWARDS DOUBLE ARROW",
        "UPWARDS DOUBLE ARROW;RIGHTWARDS DOUBLE ARROW;DOWNWARDS DOUBLE ARROW;LEFT RIGHT DOUBLE ARROW",
        "UP DOWN DOUBLE ARROW;NORTH WEST DOUBLE ARROW;NORTH EAST DOUBLE ARROW;SOUTH EAST DOUBLE ARROW",
        "SOUTH WEST DOUBLE ARROW;LEFTWARDS TRIPLE ARROW;RIGHTWARDS TRIPLE ARROW;LEFTWARDS SQUIGGLE ARROW",
        "RIGHTWARDS SQUIGGLE ARROW;UPWARDS ARROW WITH DOUBLE STROKE;DOWNWARDS ARROW WITH DOUBLE STROKE",
        "LEFTWARDS DASHED ARROW;UPWARDS DASHED ARROW;RIGHTWARDS DASHED ARROW;DOWNWARDS DASHED ARROW",
        "LEFTWARDS ARROW TO BAR;RIGHTWARDS ARROW TO BAR;LEFTWARDS WHITE ARROW;UPWARDS WHITE ARROW",
        "RIGHTWARDS WHITE ARROW;DOWNWARDS WHITE ARROW"]⟩,
    ⟨[("UPWARDS WHITE ", 0x21ea)], 1,
      ["ARROW FROM BAR;ARROW ON PEDESTAL;ARROW ON PEDESTAL WITH HORIZONTAL BAR",
        "ARROW ON PEDESTAL WITH VERTICAL BAR;DOUBLE ARROW;DOUBLE ARROW ON PEDESTAL"]⟩,
    ⟨[("", 0x21f0)], 1,
      ["RIGHTWARDS WHITE ARROW FROM WALL;NORTH WEST ARROW TO CORNER;SOUTH EAST ARROW TO CORNER",
        "UP DOWN WHITE ARROW;RIGHT ARROW WITH SMALL CIRCLE;DOWNWARDS ARROW LEFTWARDS OF UPWARDS ARROW",
        "THREE RIGHTWARDS ARROWS;LEFTWARDS ARROW WITH VERTICAL STROKE",
        "RIGHTWARDS ARROW WITH VERTICAL STROKE;LEFT RIGHT ARROW WITH VERTICAL STROKE",
        "LEFTWARDS ARROW WITH DOUBLE VERTICAL STROKE;RIGHTWARDS ARROW WITH DOUBLE VERTICAL STROKE",
        "LEFT RIGHT ARROW WITH DOUBLE VERTICAL STROKE;LEFTWARDS OPEN-HEADED ARROW",
        "RIGHTWARDS OPEN-HEADED ARROW;LEFT RIGHT OPEN-HEADED ARROW;FOR ALL;COMPLEMENT;PARTIAL DIFFERENTIAL",
        "THERE EXISTS;THERE DOES NOT EXIST;EMPTY SET;INCREMENT;NABLA;ELEMENT OF;NOT AN ELEMENT OF",
        "SMALL ELEMENT OF;CONTAINS AS MEMBER;DOES NOT CONTAIN AS MEMBER;SMALL CONTAINS AS MEMBER",
        "END OF PROOF;N-ARY PRODUCT;N-ARY COPRODUCT;N-ARY SUMMATION;MINUS SIGN;MINUS-OR-PLUS SIGN;DOT PLUS",
        "DIVISION SLASH;SET MINUS;ASTERISK OPERATOR;RING OPERATOR;BULLET OPERATOR;SQUARE ROOT;CUBE ROOT",
        "FOURTH ROOT;PROPORTIONAL TO;INFINITY;RIGHT ANGLE;ANGLE;MEASURED ANGLE;SPHERICAL ANGLE;DIVIDES",
        "DOES NOT DIVIDE;PARALLEL TO;NOT PARALLEL TO;LOGICAL AND;LOGICAL OR;INTERSECTION;UNION;INTEGRAL",
        "DOUBLE INTEGRAL;TRIPLE INTEGRAL;CONTOUR INTEGRAL;SURFACE INTEGRAL;VOLUME INTEGRAL",
        "CLOCKWISE INTEGRAL;CLOCKWISE CONTOUR INTEGRAL;ANTICLOCKWISE CONTOUR INTEGRAL;THEREFORE;BECAUSE",
        "RATIO;PROPORTION;DOT MINUS;EXCESS;GEOMETRIC PROPORTION;HOMOTHETIC;TILDE OPERATOR;REVERSED TILDE",
        "INVERTED LAZY S;SINE WAVE;WREATH PRODUCT;NOT TILDE;MINUS TILDE;ASYMPTOTICALLY EQUAL TO",
        "NOT ASYMPTOTICALLY EQUAL TO;APPROXIMATELY EQUAL TO;APPROXIMATELY BUT NOT ACTUALLY EQUAL TO",
        "NEITHER APPROXIMATELY NOR ACTUALLY EQUAL TO;ALMOST EQUAL TO;NOT ALMOST EQUAL TO",
        "ALMOST EQUAL OR EQUAL TO;TRIPLE TILDE;ALL EQUAL TO;EQUIVALENT TO;GEOMETRICALLY EQUIVALENT TO",
        "DIFFERENCE BETWEEN;APPROACHES THE LIMIT;GEOMETRICALLY EQUAL TO",
        "APPROXIMATELY EQUAL TO OR THE IMAGE OF;IMAGE OF OR APPROXIMATELY EQUAL TO;COLON EQUALS",
        "EQUALS COLON;RING IN EQUAL TO;RING EQUAL TO;CORRESPONDS TO;ESTIMATES;EQUIANGULAR TO;STAR EQUALS",
        "DELTA EQUAL TO;EQUAL TO BY DEFINITION;MEASURED BY;QUESTIONED EQUAL TO;NOT EQUAL TO;IDENTICAL TO",
        "NOT IDENTICAL TO;STRICTLY EQUIVALENT TO;LESS-THAN OR EQUAL TO;GREATER-THAN OR EQUAL TO",
        "LESS-THAN OVER EQUAL TO;GREATER-THAN OVER EQUAL TO;LESS-THAN BUT NOT EQUAL TO",
        "GREATER-THAN BUT NOT EQUAL TO;MUCH LESS-THAN;MUCH GREATER-THAN;BETWEEN;NOT EQUIVALENT TO",
        "NOT LESS-THAN;NOT GREATER-THAN;NEITHER LESS-THAN NOR EQUAL TO;NEITHER GREATER-THAN NOR EQUAL TO",
        "LESS-THAN OR EQUIVALENT TO;GREATER-THAN OR EQUIVALENT TO;NEITHER LESS-THAN NOR EQUIVALENT TO",
        "NEITHER GREATER-THAN NOR EQUIVALENT TO;LESS-THAN OR GREATER-THAN;GREATER-THAN OR LESS-THAN",
        "NEITHER LESS-THAN NOR GREATER-THAN;NEITHER GREATER-THAN NOR LESS-THAN;PRECEDES;SUCCEEDS",
        "PRECEDES OR EQUAL TO;SUCCEEDS OR EQUAL TO;PRECEDES OR EQUIVALENT TO;SUCCEEDS OR EQUIVALENT TO",
        "DOES NOT PRECEDE;DOES NOT SUCCEED;SUBSET OF;SUPERSET OF;NOT A SUBSET OF;NOT A SUPERSET OF",
        "SUBSET OF OR EQUAL TO;SUPERSET OF OR EQUAL TO;NEITHER A SUBSET OF NOR EQUAL TO",
        "NEITHER A SUPERSET OF NOR EQUAL TO;SUBSET OF WITH NOT EQUAL TO;SUPERSET OF WITH NOT EQUAL TO",
        "MULTISET;MULTISET MULTIPLICATION;MULTISET UNION"]⟩,
    ⟨[("SQUARE ", 0x228f)], 1,
      ["IMAGE OF;ORIGINAL OF;IMAGE OF OR EQUAL TO;ORIGINAL OF OR EQUAL TO;CAP;CUP"]⟩,
    ⟨[("CIRCLED ", 0x2295)], 1,
      ["PLUS;MINUS;TIMES;DIVISION SLASH;DOT OPERATOR;RING OPERATOR;ASTERISK OPERATOR;EQUALS;DASH"]⟩,
    ⟨[("SQUARED ", 0x229e)], 1, ["PLUS;MINUS;TIMES;DOT OPERATOR"]⟩,
    ⟨[("", 0x22a2)], 1,
      ["RIGHT TACK;LEFT TACK;DOWN TACK;UP TACK;ASSERTION;MODELS;TRUE;FORCES",
        "TRIPLE VERTICAL BAR RIGHT TURNSTILE;DOUBLE VERTICAL BAR DOUBLE RIGHT TURNSTILE;DOES NOT PROVE",
        "NOT TRUE;DOES NOT FORCE;NEGATED DOUBLE VERTICAL BAR DOUBLE RIGHT TURNSTILE",
        "PRECEDES UNDER RELATION;SUCCEEDS UNDER RELATION;NORMAL SUBGROUP OF;CONTAINS AS NORMAL SUBGROUP",
        "NORMAL SUBGROUP OF OR EQUAL TO;CONTAINS AS NORMAL SUBGROUP OR EQUAL TO;ORIGINAL OF;IMAGE OF",
        "MULTIMAP;HERMITIAN CONJUGATE MATRIX;INTERCALATE;XOR;NAND;NOR;RIGHT ANGLE WITH ARC;RIGHT TRIANGLE",
        "N-ARY LOGICAL AND;N-ARY LOGICAL OR;N-ARY INTERSECTION;N-ARY UNION;DIAMOND OPERATOR;DOT OPERATOR",
        "STAR OPERATOR;DIVISION TIMES;BOWTIE;LEFT NORMAL FACTOR SEMIDIRECT PRODUCT",
        "RIGHT NORMAL FACTOR SEMIDIRECT PRODUCT;LEFT SEMIDIRECT PRODUCT;RIGHT SEMIDIRECT PRODUCT",
        "REVERSED TILDE EQUALS;CURLY LOGICAL OR;CURLY LOGICAL AND;DOUBLE SUBSET;DOUBLE SUPERSET",
        "DOUBLE INTERSECTION;DOUBLE UNION;PITCHFORK;EQUAL AND PARALLEL TO;LESS-THAN WITH DOT",
        "GREATER-THAN WITH DOT;VERY MUCH LESS-THAN;VERY MUCH GREATER-THAN",
        "LESS-THAN EQUAL TO OR GREATER-THAN;GREATER-THAN EQUAL TO OR LESS-THAN"]⟩,
    ⟨[("EQUAL TO OR ", 0x22dc)], 1, ["LESS-THAN;GREATER-THAN;PRECEDES;SUCCEEDS"]⟩,
    ⟨[("", 0x22e0)], 1,
      ["DOES NOT PRECEDE OR EQUAL;DOES NOT SUCCEED OR EQUAL;NOT SQUARE IMAGE OF OR EQUAL TO",
        "NOT SQUARE ORIGINAL OF OR EQUAL TO;SQUARE IMAGE OF OR NOT EQUAL TO",
        "SQUARE ORIGINAL OF OR NOT EQUAL TO;LESS-THAN BUT NOT EQUIVALENT TO",
        "GREATER-THAN BUT NOT EQUIVALENT TO;PRECEDES BUT NOT EQUIVALENT TO;SUCCEEDS BUT NOT EQUIVALENT TO",
        "NOT NORMAL SUBGROUP OF;DOES NOT CONTAIN AS NORMAL SUBGROUP;NOT NORMAL SUBGROUP OF OR EQUAL TO",
        "DOES NOT CONTAIN AS NORMAL SUBGROUP OR EQUAL;VERTICAL ELLIPSIS;MIDLINE HORIZONTAL ELLIPSIS",
        "UP RIGHT DIAGONAL ELLIPSIS;DOWN RIGHT DIAGONAL ELLIPSIS;ELEMENT OF WITH LONG HORIZONTAL STROKE",
        "ELEMENT OF WITH VERTICAL BAR AT END OF HORIZONTAL STROKE",
        "SMALL ELEMENT OF WITH VERTICAL BAR AT END OF HORIZONTAL STROKE;ELEMENT OF WITH DOT ABOVE",
        "ELEMENT OF WITH OVERBAR;SMALL ELEMENT OF WITH OVERBAR;ELEMENT OF WITH UNDERBAR",
        "ELEMENT OF WITH TWO HORIZONTAL STROKES;CONTAINS WITH LONG HORIZONTAL STROKE",
        "CONTAINS WITH VERTICAL BAR AT END OF HORIZONTAL STROKE",
        "SMALL CONTAINS WITH VERTICAL BAR AT END OF HORIZONTAL STROKE;CONTAINS WITH OVERBAR",
        "SMALL CONTAINS WITH OVERBAR;Z NOTATION BAG MEMBERSHIP;DIAMETER SIGN;ELECTRIC ARROW;HOUSE",
        "UP ARROWHEAD;DOWN ARROWHEAD;PROJECTIVE;PERSPECTIVE;WAVY LINE;LEFT CEILING;RIGHT CEILING",
        "LEFT FLOOR;RIGHT FLOOR;BOTTOM RIGHT CROP;BOTTOM LEFT CROP;TOP RIGHT CROP;TOP LEFT CROP",
        "REVERSED NOT SIGN;SQUARE LOZENGE;ARC;SEGMENT;SECTOR;TELEPHONE RECORDER;POSITION INDICATOR",
        "VIEWDATA SQUARE;PLACE OF INTEREST SIGN;TURNED NOT SIGN;WATCH;HOURGLASS;TOP LEFT CORNER",
        "TOP RIGHT CORNER;BOTTOM LEFT CORNER;BOTTOM RIGHT CORNER;TOP HALF INTEGRAL;BOTTOM HALF INTEGRAL",
        "FROWN;SMILE;UP ARROWHEAD BETWEEN TWO HORIZONTAL BARS;OPTION KEY;ERASE TO THE RIGHT",
        "X IN A RECTANGLE BOX;KEYBOARD;LEFT-POINTING ANGLE BRACKET;RIGHT-POINTING ANGLE BRACKET",
        "ERASE TO THE LEFT;BENZENE RING;CYLINDRICITY;ALL AROUND-PROFILE;SYMMETRY;TOTAL RUNOUT",
        "DIMENSION ORIGIN;CONICAL TAPER;SLOPE;COUNTERBORE;COUNTERSINK"]⟩,
    ⟨[("APL FUNCTIONAL SYMBOL ", 0x2336)], 1,
      ["I-BEAM;SQUISH QUAD;QUAD EQUAL;QUAD DIVIDE;QUAD DIAMOND;QUAD JOT;QUAD CIRCLE;CIRCLE STILE",
        "CIRCLE JOT;SLASH BAR;BACKSLASH BAR;QUAD SLASH;QUAD BACKSLASH;QUAD LESS-THAN;QUAD GREATER-THAN",
        "LEFTWARDS VANE;RIGHTWARDS VANE;QUAD LEFTWARDS ARROW;QUAD RIGHTWARDS ARROW;CIRCLE BACKSLASH",
        "DOWN TACK UNDERBAR;DELTA STILE;QUAD DOWN CARET;QUAD DELTA;DOWN TACK JOT;UPWARDS VANE",
        "QUAD UPWARDS ARROW;UP TACK OVERBAR;DEL STILE;QUAD UP CARET;QUAD DEL;UP TACK JOT;DOWNWARDS VANE",
        "QUAD DOWNWARDS ARROW;QUOTE UNDERBAR;DELTA UNDERBAR;DIAMOND UNDERBAR;JOT UNDERBAR;CIRCLE UNDERBAR",
        "UP SHOE JOT;QUOTE QUAD;CIRCLE STAR;QUAD COLON;UP TACK DIAERESIS;DEL DIAERESIS;STAR DIAERESIS",
        "JOT DIAERESIS;CIRCLE DIAERESIS;DOWN SHOE STILE;LEFT SHOE STILE;TILDE DIAERESIS",
        "GREATER-THAN DIAERESIS;COMMA BAR;DEL TILDE;ZILDE;STILE TILDE;SEMICOLON UNDERBAR;QUAD NOT EQUAL",
        "QUAD QUESTION;DOWN CARET TILDE;UP CARET TILDE;IOTA;RHO;OMEGA;ALPHA UNDERBAR;EPSILON UNDERBAR",
        "IOTA UNDERBAR;OMEGA UNDERBAR;ALPHA"]⟩,
    ⟨[("", 0x237b)], 1,
      ["NOT CHECK MARK;RIGHT ANGLE WITH DOWNWARDS ZIGZAG ARROW;SHOULDERED OPEN BOX;BELL SYMBOL",
        "VERTICAL LINE WITH MIDDLE DOT;INSERTION SYMBOL;CONTINUOUS UNDERLINE SYMBOL",
        "DISCONTINUOUS UNDERLINE SYMBOL;EMPHASIS SYMBOL;COMPOSITION SYMBOL",
        "WHITE SQUARE WITH CENTRE VERTICAL LINE;ENTER SYMBOL;ALTERNATIVE KEY SYMBOL;HELM SYMBOL",
        "CIRCLED HORIZONTAL BAR WITH NOTCH;CIRCLED TRIANGLE DOWN;BROKEN CIRCLE WITH NORTHWEST ARROW",
        "UNDO SYMBOL;MONOSTABLE SYMBOL;HYSTERESIS SYMBOL;OPEN-CIRCUIT-OUTPUT H-TYPE SYMBOL",
        "OPEN-CIRCUIT-OUTPUT L-TYPE SYMBOL;PASSIVE-PULL-DOWN-OUTPUT SYMBOL;PASSIVE-PULL-UP-OUTPUT SYMBOL",
        "DIRECT CURRENT SYMBOL FORM TWO;SOFTWARE-FUNCTION SYMBOL;APL FUNCTIONAL SYMBOL QUAD",
        "DECIMAL SEPARATOR KEY SYMBOL;PREVIOUS PAGE;NEXT PAGE;PRINT SCREEN SYMBOL;CLEAR SCREEN SYMBOL"]⟩,
    ⟨[("LEFT PARENTHESIS ", 0x239b), ("RIGHT PARENTHESIS ", 0x239e)], 1,
      ["UPPER HOOK;EXTENSION;LOWER HOOK"]⟩,
    ⟨[("LEFT SQUARE BRACKET ", 0x23a1), ("RIGHT SQUARE BRACKET ", 0x23a4)], 1,
      ["UPPER CORNER;EXTENSION;LOWER CORNER"]⟩,
    ⟨[("LEFT CURLY BRACKET ", 0x23a7), ("RIGHT CURLY BRACKET ", 0x23ab)], 1,
      ["UPPER HOOK;MIDDLE PIECE;LOWER HOOK"]⟩,
    ⟨[("", 0x23aa)], 1, ["CURLY BRACKET EXTENSION"]⟩,
    ⟨[("", 0x23ae)], 1,
      ["INTEGRAL EXTENSION;HORIZONTAL LINE EXTENSION;UPPER LEFT OR LOWER RIGHT CURLY BRACKET SECTION",
        "UPPER RIGHT OR LOWER LEFT CURLY BRACKET SECTION;SUMMATION TOP;SUMMATION BOTTOM;TOP SQUARE BRACKET",
        "BOTTOM SQUARE BRACKET;BOTTOM SQUARE BRACKET OVER TOP SQUARE BRACKET;RADICAL SYMBOL BOTTOM",
        "LEFT VERTICAL BOX LINE;RIGHT VERTICAL BOX LINE"]⟩,
    ⟨[("HORIZONTAL SCAN LINE-", 0x23ba)], 1, ["1;3;7;9"]⟩,
    ⟨[("DENTISTRY SYMBOL LIGHT ", 0x23be)], 1,
      ["VERTICAL AND TOP RIGHT;VERTICAL AND BOTTOM RIGHT;VERTICAL WITH CIRCLE",
        "DOWN AND HORIZONTAL WITH CIRCLE;UP AND HORIZONTAL WITH CIRCLE;VERTICAL WITH TRIANGLE",
        "DOWN AND HORIZONTAL WITH TRIANGLE;UP AND HORIZONTAL WITH TRIANGLE;VERTICAL AND WAVE",
        "DOWN AND HORIZONTAL WITH WAVE;UP AND HORIZONTAL WITH WAVE;DOWN AND HORIZONTAL;UP AND HORIZONTAL",
        "VERTICAL AND TOP LEFT;VERTICAL AND BOTTOM LEFT"]⟩,
    ⟨[("", 0x23cd)], 1, ["SQUARE FOOT;RETURN SYMBOL;EJECT SYMBOL;VERTICAL LINE EXTENSION"]⟩,
    ⟨[("METRICAL ", 0x23d1)], 1,
      ["BREVE;LONG OVER SHORT;SHORT OVER LONG;LONG OVER TWO SHORTS;TWO SHORTS OVER LONG;TWO SHORTS JOINED",
        "TRISEME;TETRASEME;PENTASEME"]⟩,
    ⟨[("", 0x23da)], 1,
      ["EARTH GROUND;FUSE;TOP PARENTHESIS;BOTTOM PARENTHESIS;TOP CURLY BRACKET;BOTTOM CURLY BRACKET",
        "TOP TORTOISE SHELL BRACKET;BOTTOM TORTOISE SHELL BRACKET;WHITE TRAPEZIUM;BENZENE RING WITH CIRCLE",
        "STRAIGHTNESS;FLATNESS;AC CURRENT;ELECTRICAL INTERSECTION;DECIMAL EXPONENT SYMBOL"]⟩,
    ⟨[("BLACK ", 0x23e9)], 1,
      ["RIGHT-POINTING DOUBLE TRIANGLE;LEFT-POINTING DOUBLE TRIANGLE;UP-POINTING DOUBLE TRIANGLE",
        "DOWN-POINTING DOUBLE TRIANGLE;RIGHT-POINTING DOUBLE TRIANGLE WITH VERTICAL BAR",
        "LEFT-POINTING DOUBLE TRIANGLE WITH VERTICAL BAR;RIGHT-POINTING TRIANGLE WITH DOUBLE VERTICAL BAR"]⟩,
    ⟨[("", 0x23f0)], 1, ["ALARM CLOCK;STOPWATCH;TIMER CLOCK;HOURGLASS WITH FLOWING SAND"]⟩,
    ⟨[("BLACK MEDIUM ", 0x23f4)], 1,
      ["LEFT-POINTING TRIANGLE;RIGHT-POINTING TRIANGLE;UP-POINTING TRIANGLE;DOWN-POINTING TRIANGLE"]⟩,
    ⟨[("", 0x23f8)], 1,
      ["DOUBLE VERTICAL BAR;BLACK SQUARE FOR STOP;BLACK CIRCLE FOR RECORD;POWER SYMBOL",
        "POWER ON-OFF SYMBOL;POWER ON SYMBOL;POWER SLEEP SYMBOL;OBSERVER EYE SYMBOL"]⟩,
    ⟨[("SYMBOL FOR ", 0x2400)], 1,
      ["NULL;START OF HEADING;START OF TEXT;END OF TEXT;END OF TRANSMISSION;ENQUIRY;ACKNOWLEDGE;BELL",
        "BACKSPACE;HORIZONTAL TABULATION;LINE FEED;VERTICAL TABULATION;FORM FEED;CARRIAGE RETURN;SHIFT OUT",
        "SHIFT IN;DATA LINK ESCAPE;DEVICE CONTROL ONE;DEVICE CONTROL TWO;DEVICE CONTROL THREE",
        "DEVICE CONTROL FOUR;NEGATIVE ACKNOWLEDGE;SYNCHRONOUS IDLE;END OF TRANSMISSION BLOCK;CANCEL",
        "END OF MEDIUM;SUBSTITUTE;ESCAPE;FILE SEPARATOR;GROUP SEPARATOR;RECORD SEPARATOR;UNIT SEPARATOR",
        "SPACE;DELETE"]⟩,
    ⟨[("", 0x2422)], 1, ["BLANK SYMBOL;OPEN BOX"]⟩,
    ⟨[("SYMBOL FOR ", 0x2424)], 1, ["NEWLINE;DELETE FORM TWO;SUBSTITUTE FORM TWO"]⟩,
    ⟨[("OCR ", 0x2440)], 1,
      ["HOOK;CHAIR;FORK;INVERTED FORK;BELT BUCKLE;BOW TIE;BRANCH BANK IDENTIFICATION;AMOUNT OF CHECK;DASH",
        "CUSTOMER ACCOUNT NUMBER;DOUBLE BACKSLASH"]⟩,
    ⟨[("CIRCLED DIGIT ", 0x2460), ("PARENTHESIZED DIGIT ", 0x2474), ("DOUBLE CIRCLED DIGIT ", 0x24f5),
      ("DINGBAT NEGATIVE CIRCLED DIGIT ", 0x2776), ("DINGBAT CIRCLED SANS-SERIF DIGIT ", 0x2780),
      ("HANGZHOU NUMERAL ", 0x3021)], 1,
      ["ONE;TWO;THREE;FOUR;FIVE;SIX;SEVEN;EIGHT;NINE"]⟩,
    ⟨[("CIRCLED NUMBER ", 0x2469), ("PARENTHESIZED NUMBER ", 0x247d)], 1,
      ["TEN;ELEVEN;TWELVE;THIRTEEN;FOURTEEN;FIFTEEN;SIXTEEN;SEVENTEEN;EIGHTEEN;NINETEEN;TWENTY"]⟩,
    ⟨[("DIGIT ", 0x2488)], 1,
      ["ONE FULL STOP;TWO FULL STOP;THREE FULL STOP;FOUR FULL STOP;FIVE FULL STOP;SIX FULL STOP",
        "SEVEN FULL STOP;EIGHT FULL STOP;NINE FULL STOP"]⟩,
    ⟨[("NUMBER ", 0x2491)], 1,
      ["TEN FULL STOP;ELEVEN FULL STOP;TWELVE FULL STOP;THIRTEEN FULL STOP;FOURTEEN FULL STOP",
        "FIFTEEN FULL STOP;SIXTEEN FULL STOP;SEVENTEEN FULL STOP;EIGHTEEN FULL STOP;NINETEEN FULL STOP",
        "TWENTY FULL STOP"]⟩,
    ⟨[("", 0x24ea)], 1, ["CIRCLED DIGIT ZERO"]⟩,
    ⟨[("NEGATIVE CIRCLED NUMBER ", 0x24eb)], 1,
      ["ELEVEN;TWELVE;THIRTEEN;FOURTEEN;FIFTEEN;SIXTEEN;SEVENTEEN;EIGHTEEN;NINETEEN;TWENTY"]⟩,
    ⟨[("", 0x24fe)], 1, ["DOUBLE CIRCLED NUMBER TEN;NEGATIVE CIRCLED DIGIT ZERO"]⟩,
    ⟨[("BOX DRAWINGS ", 0x2500)], 1,
      ["LIGHT HORIZONTAL;HEAVY HORIZONTAL;LIGHT VERTICAL;HEAVY VERTICAL;LIGHT TRIPLE DASH HORIZONTAL",
        "HEAVY TRIPLE DASH HORIZONTAL;LIGHT TRIPLE DASH VERTICAL;HEAVY TRIPLE DASH VERTICAL",
        "LIGHT QUADRUPLE DASH HORIZONTAL;HEAVY QUADRUPLE DASH HORIZONTAL;LIGHT QUADRUPLE DASH VERTICAL",
        "HEAVY QUADRUPLE DASH VERTICAL;LIGHT DOWN AND RIGHT;DOWN LIGHT AND RIGHT HEAVY",
        "DOWN HEAVY AND RIGHT LIGHT;HEAVY DOWN AND RIGHT;LIGHT DOWN AND LEFT;DOWN LIGHT AND LEFT HEAVY",
        "DOWN HEAVY AND LEFT LIGHT;HEAVY DOWN AND LEFT;LIGHT UP AND RIGHT;UP LIGHT AND RIGHT HEAVY",
        "UP HEAVY AND RIGHT LIGHT;HEAVY UP AND RIGHT;LIGHT UP AND LEFT;UP LIGHT AND LEFT HEAVY",
        "UP HEAVY AND LEFT LIGHT;HEAVY UP AND LEFT;LIGHT VERTICAL AND RIGHT;VERTICAL LIGHT AND RIGHT HEAVY",
        "UP HEAVY AND RIGHT DOWN LIGHT;DOWN HEAVY AND RIGHT UP LIGHT;VERTICAL HEAVY AND RIGHT LIGHT",
        "DOWN LIGHT AND RIGHT UP HEAVY;UP LIGHT AND RIGHT DOWN HEAVY;HEAVY VERTICAL AND RIGHT",
        "LIGHT VERTICAL AND LEFT;VERTICAL LIGHT AND LEFT HEAVY;UP HEAVY AND LEFT DOWN LIGHT",
        "DOWN HEAVY AND LEFT UP LIGHT;VERTICAL HEAVY AND LEFT LIGHT;DOWN LIGHT AND LEFT UP HEAVY",
        "UP LIGHT AND LEFT DOWN HEAVY;HEAVY VERTICAL AND LEFT;LIGHT DOWN AND HORIZONTAL",
        "LEFT HEAVY AND RIGHT DOWN LIGHT;RIGHT HEAVY AND LEFT DOWN LIGHT;DOWN LIGHT AND HORIZONTAL HEAVY",
        "DOWN HEAVY AND HORIZONTAL LIGHT;RIGHT LIGHT AND LEFT DOWN HEAVY;LEFT LIGHT AND RIGHT DOWN HEAVY",
        "HEAVY DOWN AND HORIZONTAL;LIGHT UP AND HORIZONTAL;LEFT HEAVY AND RIGHT UP LIGHT",
        "RIGHT HEAVY AND LEFT UP LIGHT;UP LIGHT AND HORIZONTAL HEAVY;UP HEAVY AND HORIZONTAL LIGHT",
        "RIGHT LIGHT AND LEFT UP HEAVY;LEFT LIGHT AND RIGHT UP HEAVY;HEAVY UP AND HORIZONTAL",
        "LIGHT VERTICAL AND HORIZONTAL;LEFT HEAVY AND RIGHT VERTICAL LIGHT",
        "RIGHT HEAVY AND LEFT VERTICAL LIGHT;VERTICAL LIGHT AND HORIZONTAL HEAVY",
        "UP HEAVY AND DOWN HORIZONTAL LIGHT;DOWN HEAVY AND UP HORIZONTAL LIGHT",
        "VERTICAL HEAVY AND HORIZONTAL LIGHT;LEFT UP HEAVY AND RIGHT DOWN LIGHT",
        "RIGHT UP HEAVY AND LEFT DOWN LIGHT;LEFT DOWN HEAVY AND RIGHT UP LIGHT",
        "RIGHT DOWN HEAVY AND LEFT UP LIGHT;DOWN LIGHT AND UP HORIZONTAL HEAVY",
        "UP LIGHT AND DOWN HORIZONTAL HEAVY;RIGHT LIGHT AND LEFT VERTICAL HEAVY",
        "LEFT LIGHT AND RIGHT VERTICAL HEAVY;HEAVY VERTICAL AND HORIZONTAL;LIGHT DOUBLE DASH HORIZONTAL",
        "HEAVY DOUBLE DASH HORIZONTAL;LIGHT DOUBLE DASH VERTICAL;HEAVY DOUBLE DASH VERTICAL",
        "DOUBLE HORIZONTAL;DOUBLE VERTICAL;DOWN SINGLE AND RIGHT DOUBLE;DOWN DOUBLE AND RIGHT SINGLE",
        "DOUBLE DOWN AND RIGHT;DOWN SINGLE AND LEFT DOUBLE;DOWN DOUBLE AND LEFT SINGLE",
        "DOUBLE DOWN AND LEFT;UP SINGLE AND RIGHT DOUBLE;UP DOUBLE AND RIGHT SINGLE;DOUBLE UP AND RIGHT",
        "UP SINGLE AND LEFT DOUBLE;UP DOUBLE AND LEFT SINGLE;DOUBLE UP AND LEFT",
        "VERTICAL SINGLE AND RIGHT DOUBLE;VERTICAL DOUBLE AND RIGHT SINGLE;DOUBLE VERTICAL AND RIGHT",
        "VERTICAL SINGLE AND LEFT DOUBLE;VERTICAL DOUBLE AND LEFT SINGLE;DOUBLE VERTICAL AND LEFT",
        "DOWN SINGLE AND HORIZONTAL DOUBLE;DOWN DOUBLE AND HORIZONTAL SINGLE;DOUBLE DOWN AND HORIZONTAL",
        "UP SINGLE AND HORIZONTAL DOUBLE;UP DOUBLE AND HORIZONTAL SINGLE;DOUBLE UP AND HORIZONTAL",
        "VERTICAL SINGLE AND HORIZONTAL DOUBLE;VERTICAL DOUBLE AND HORIZONTAL SINGLE",
        "DOUBLE VERTICAL AND HORIZONTAL"]⟩,
    ⟨[("BOX DRAWINGS LIGHT ", 0x256d)], 1,
      ["ARC DOWN AND RIGHT;ARC DOWN AND LEFT;ARC UP AND LEFT;ARC UP AND RIGHT",
        "DIAGONAL UPPER RIGHT TO LOWER LEFT;DIAGONAL UPPER LEFT TO LOWER RIGHT;DIAGONAL CROSS;LEFT;UP",
        "RIGHT;DOWN"]⟩,
    ⟨[("BOX DRAWINGS ", 0x2578)], 1,
      ["HEAVY LEFT;HEAVY UP;HEAVY RIGHT;HEAVY DOWN;LIGHT LEFT AND HEAVY RIGHT;LIGHT UP AND HEAVY DOWN",
        "HEAVY LEFT AND LIGHT RIGHT;HEAVY UP AND LIGHT DOWN"]⟩,
    ⟨[("", 0x2580)], 1, ["UPPER HALF BLOCK"]⟩,
    ⟨[("LOWER ", 0x2581)], 1,
      ["ONE EIGHTH BLOCK;ONE QUARTER BLOCK;THREE EIGHTHS BLOCK;HALF BLOCK;FIVE EIGHTHS BLOCK",
        "THREE QUARTERS BLOCK;SEVEN EIGHTHS BLOCK"]⟩,
    ⟨[("", 0x2588)], 1,
      ["FULL BLOCK;LEFT SEVEN EIGHTHS BLOCK;LEFT THREE QUARTERS BLOCK;LEFT FIVE EIGHTHS BLOCK",
        "LEFT HALF BLOCK;LEFT THREE EIGHTHS BLOCK;LEFT ONE QUARTER BLOCK;LEFT ONE EIGHTH BLOCK",
        "RIGHT HALF BLOCK;LIGHT SHADE;MEDIUM SHADE;DARK SHADE;UPPER ONE EIGHTH BLOCK",
        "RIGHT ONE EIGHTH BLOCK;QUADRANT LOWER LEFT;QUADRANT LOWER RIGHT"]⟩,
    ⟨[("QUADRANT UPPER ", 0x2598)], 1,
      ["LEFT;LEFT AND LOWER LEFT AND LOWER RIGHT;LEFT AND LOWER RIGHT;LEFT AND UPPER RIGHT AND LOWER LEFT",
        "LEFT AND UPPER RIGHT AND LOWER RIGHT;RIGHT;RIGHT AND LOWER LEFT",
        "RIGHT AND LOWER LEFT AND LOWER RIGHT"]⟩,
    ⟨[("", 0x25a0)], 1,
      ["BLACK SQUARE;WHITE SQUARE;WHITE SQUARE WITH ROUNDED CORNERS",
        "WHITE SQUARE CONTAINING BLACK SMALL SQUARE"]⟩,
    ⟨[("SQUARE WITH ", 0x25a4)], 1,
      ["HORIZONTAL FILL;VERTICAL FILL;ORTHOGONAL CROSSHATCH FILL;UPPER LEFT TO LOWER RIGHT FILL",
        "UPPER RIGHT TO LOWER LEFT FILL;DIAGONAL CROSSHATCH FILL"]⟩,
    ⟨[("", 0x25aa)], 1,
      ["BLACK SMALL SQUARE;WHITE SMALL SQUARE;BLACK RECTANGLE;WHITE RECTANGLE;BLACK VERTICAL RECTANGLE",
        "WHITE VERTICAL RECTANGLE;BLACK PARALLELOGRAM;WHITE PARALLELOGRAM;BLACK UP-POINTING TRIANGLE",
        "WHITE UP-POINTING TRIANGLE;BLACK UP-POINTING SMALL TRIANGLE;WHITE UP-POINTING SMALL TRIANGLE",
        "BLACK RIGHT-POINTING TRIANGLE;WHITE RIGHT-POINTING TRIANGLE;BLACK RIGHT-POINTING SMALL TRIANGLE",
        "WHITE RIGHT-POINTING SMALL TRIANGLE;BLACK RIGHT-POINTING POINTER;WHITE RIGHT-POINTING POINTER",
        "BLACK DOWN-POINTING TRIANGLE;WHITE DOWN-POINTING TRIANGLE;BLACK DOWN-POINTING SMALL TRIANGLE",
        "WHITE DOWN-POINTING SMALL TRIANGLE;BLACK LEFT-POINTING TRIANGLE;WHITE LEFT-POINTING TRIANGLE",
        "BLACK LEFT-POINTING SMALL TRIANGLE;WHITE LEFT-POINTING SMALL TRIANGLE;BLACK LEFT-POINTING POINTER",
        "WHITE LEFT-POINTING POINTER;BLACK DIAMOND;WHITE DIAMOND",
        "WHITE DIAMOND CONTAINING BLACK SMALL DIAMOND;FISHEYE;LOZENGE;WHITE CIRCLE;DOTTED CIRCLE",
        "CIRCLE WITH VERTICAL FILL;BULLSEYE;BLACK CIRCLE"]⟩,
    ⟨[("CIRCLE WITH ", 0x25d0)], 1,
      ["LEFT HALF BLACK;RIGHT HALF BLACK;LOWER HALF BLACK;UPPER HALF BLACK;UPPER RIGHT QUADRANT BLACK",
        "ALL BUT UPPER LEFT QUADRANT BLACK"]⟩,
    ⟨[("", 0x25d6)], 1,
      ["LEFT HALF BLACK CIRCLE;RIGHT HALF BLACK CIRCLE;INVERSE BULLET;INVERSE WHITE CIRCLE",
        "UPPER HALF INVERSE WHITE CIRCLE;LOWER HALF INVERSE WHITE CIRCLE;UPPER LEFT QUADRANT CIRCULAR ARC",
        "UPPER RIGHT QUADRANT CIRCULAR ARC;LOWER RIGHT QUADRANT CIRCULAR ARC",
        "LOWER LEFT QUADRANT CIRCULAR ARC;UPPER HALF CIRCLE;LOWER HALF CIRCLE;BLACK LOWER RIGHT TRIANGLE",
        "BLACK LOWER LEFT TRIANGLE;BLACK UPPER LEFT TRIANGLE;BLACK UPPER RIGHT TRIANGLE;WHITE BULLET"]⟩,
    ⟨[("SQUARE WITH ", 0x25e7)], 1,
      ["LEFT HALF BLACK;RIGHT HALF BLACK;UPPER LEFT DIAGONAL HALF BLACK;LOWER RIGHT DIAGONAL HALF BLACK"]⟩,
    ⟨[("", 0x25eb)], 1,
      ["WHITE SQUARE WITH VERTICAL BISECTING LINE;WHITE UP-POINTING TRIANGLE WITH DOT",
        "UP-POINTING TRIANGLE WITH LEFT HALF BLACK;UP-POINTING TRIANGLE WITH RIGHT HALF BLACK;LARGE CIRCLE"]⟩,
    ⟨[("WHITE SQUARE WITH ", 0x25f0), ("WHITE CIRCLE WITH ", 0x25f4)], 1,
      ["UPPER LEFT QUADRANT;LOWER LEFT QUADRANT;LOWER RIGHT QUADRANT;UPPER RIGHT QUADRANT"]⟩,
    ⟨[("", 0x25f8)], 1,
      ["UPPER LEFT TRIANGLE;UPPER RIGHT TRIANGLE;LOWER LEFT TRIANGLE;WHITE MEDIUM SQUARE",
        "BLACK MEDIUM SQUARE;WHITE MEDIUM SMALL SQUARE;BLACK MEDIUM SMALL SQUARE;LOWER RIGHT TRIANGLE",
        "BLACK SUN WITH RAYS;CLOUD;UMBRELLA;SNOWMAN;COMET;BLACK STAR;WHITE STAR;LIGHTNING;THUNDERSTORM;SUN",
        "ASCENDING NODE;DESCENDING NODE;CONJUNCTION;OPPOSITION;BLACK TELEPHONE;WHITE TELEPHONE;BALLOT BOX",
        "BALLOT BOX WITH CHECK;BALLOT BOX WITH X;SALTIRE;UMBRELLA WITH RAIN DROPS;HOT BEVERAGE",
        "WHITE SHOGI PIECE;BLACK SHOGI PIECE;SHAMROCK;REVERSED ROTATED FLORAL HEART BULLET",
        "BLACK LEFT POINTING INDEX;BLACK RIGHT POINTING INDEX;WHITE LEFT POINTING INDEX",
        "WHITE UP POINTING INDEX;WHITE RIGHT POINTING INDEX;WHITE DOWN POINTING INDEX;SKULL AND CROSSBONES",
        "CAUTION SIGN;RADIOACTIVE SIGN;BIOHAZARD SIGN;CADUCEUS;ANKH;ORTHODOX CROSS;CHI RHO",
        "CROSS OF LORRAINE;CROSS OF JERUSALEM;STAR AND CRESCENT;FARSI SYMBOL;ADI SHAKTI;HAMMER AND SICKLE",
        "PEACE SYMBOL;YIN YANG"]⟩,
    ⟨[("TRIGRAM FOR ", 0x2630)], 1, ["HEAVEN;LAKE;FIRE;THUNDER;WIND;WATER;MOUNTAIN;EARTH"]⟩,
    ⟨[("", 0x2638)], 1,
      ["WHEEL OF DHARMA;WHITE FROWNING FACE;WHITE SMILING FACE;BLACK SMILING FACE;WHITE SUN WITH RAYS",
        "FIRST QUARTER MOON;LAST QUARTER MOON;MERCURY;FEMALE SIGN;EARTH;MALE SIGN;JUPITER;SATURN;URANUS",
        "NEPTUNE;PLUTO;ARIES;TAURUS;GEMINI;CANCER;LEO;VIRGO;LIBRA;SCORPIUS;SAGITTARIUS;CAPRICORN;AQUARIUS",
        "PISCES"]⟩,
    ⟨[("WHITE CHESS ", 0x2654), ("BLACK CHESS ", 0x265a)], 1, ["KING;QUEEN;ROOK;BISHOP;KNIGHT;PAWN"]⟩,
    ⟨[("", 0x2660)], 1,
      ["BLACK SPADE SUIT;WHITE HEART SUIT;WHITE DIAMOND SUIT;BLACK CLUB SUIT;WHITE SPADE SUIT",
        "BLACK HEART SUIT;BLACK DIAMOND SUIT;WHITE CLUB SUIT;HOT SPRINGS;QUARTER NOTE;EIGHTH NOTE",
        "BEAMED EIGHTH NOTES;BEAMED SIXTEENTH NOTES;MUSIC FLAT SIGN;MUSIC NATURAL SIGN;MUSIC SHARP SIGN",
        "WEST SYRIAC CROSS;EAST SYRIAC CROSS;UNIVERSAL RECYCLING SYMBOL"]⟩,
    ⟨[("RECYCLING SYMBOL FOR TYPE-", 0x2673)], 1,
      ["1 PLASTICS;2 PLASTICS;3 PLASTICS;4 PLASTICS;5 PLASTICS;6 PLASTICS;7 PLASTICS"]⟩,
    ⟨[("", 0x267a)], 1,
      ["RECYCLING SYMBOL FOR GENERIC MATERIALS;BLACK UNIVERSAL RECYCLING SYMBOL;RECYCLED PAPER SYMBOL",
        "PARTIALLY-RECYCLED PAPER SYMBOL;PERMANENT PAPER SIGN;WHEELCHAIR SYMBOL"]⟩,
    ⟨[("DIE FACE-", 0x2680)], 1, ["1;2;3;4;5;6"]⟩,
    ⟨[("WHITE CIRCLE WITH ", 0x2686)], 1, ["DOT RIGHT;TWO DOTS"]⟩,
    ⟨[("BLACK CIRCLE WITH ", 0x2688)], 1, ["WHITE DOT RIGHT;TWO WHITE DOTS"]⟩,
    ⟨[("MONOGRAM FOR ", 0x268a)], 1, ["YANG;YIN"]⟩,
    ⟨[("DIGRAM FOR ", 0x268c)], 1, ["GREATER YANG;LESSER YIN;LESSER YANG;GREATER YIN"]⟩,
    ⟨[("", 0x2690)], 1,
      ["WHITE FLAG;BLACK FLAG;HAMMER AND PICK;ANCHOR;CROSSED SWORDS;STAFF OF AESCULAPIUS;SCALES;ALEMBIC",
        "FLOWER;GEAR;STAFF OF HERMES;ATOM SYMBOL;FLEUR-DE-LIS;OUTLINED WHITE STAR",
        "THREE LINES CONVERGING RIGHT;THREE LINES CONVERGING LEFT;WARNING SIGN;HIGH VOLTAGE SIGN",
        "DOUBLED FEMALE SIGN;DOUBLED MALE SIGN;INTERLOCKED FEMALE AND MALE SIGN;MALE AND FEMALE SIGN",
        "MALE WITH STROKE SIGN;MALE WITH STROKE AND MALE AND FEMALE SIGN;VERTICAL MALE WITH STROKE SIGN",
        "HORIZONTAL MALE WITH STROKE SIGN;MEDIUM WHITE CIRCLE;MEDIUM BLACK CIRCLE",
        "MEDIUM SMALL WHITE CIRCLE;MARRIAGE SYMBOL;DIVORCE SYMBOL;UNMARRIED PARTNERSHIP SYMBOL;COFFIN",
        "FUNERAL URN;NEUTER;CERES;PALLAS;JUNO;VESTA;CHIRON;BLACK MOON LILITH;SEXTILE;SEMISEXTILE;QUINCUNX",
        "SESQUIQUADRATE;SOCCER BALL;BASEBALL;SQUARED KEY;WHITE DRAUGHTS MAN;WHITE DRAUGHTS KING",
        "BLACK DRAUGHTS MAN;BLACK DRAUGHTS KING;SNOWMAN WITHOUT SNOW;SUN BEHIND CLOUD;RAIN;BLACK SNOWMAN",
        "THUNDER CLOUD AND RAIN;TURNED WHITE SHOGI PIECE;TURNED BLACK SHOGI PIECE;WHITE DIAMOND IN SQUARE",
        "CROSSING LANES;DISABLED CAR;OPHIUCHUS;PICK;CAR SLIDING;HELMET WITH WHITE CROSS",
        "CIRCLED CROSSING LANES;CHAINS;NO ENTRY;ALTERNATE ONE-WAY LEFT WAY TRAFFIC",
        "BLACK TWO-WAY LEFT WAY TRAFFIC;WHITE TWO-WAY LEFT WAY TRAFFIC;BLACK LEFT LANE MERGE",
        "WHITE LEFT LANE MERGE;DRIVE SLOW SIGN;HEAVY WHITE DOWN-POINTING TRIANGLE;LEFT CLOSED ENTRY",
        "SQUARED SALTIRE;FALLING DIAGONAL IN WHITE CIRCLE IN BLACK SQUARE;BLACK TRUCK",
        "RESTRICTED LEFT ENTRY-1;RESTRICTED LEFT ENTRY-2;ASTRONOMICAL SYMBOL FOR URANUS",
        "HEAVY CIRCLE WITH STROKE AND TWO DOTS ABOVE;PENTAGRAM;RIGHT-HANDED INTERLACED PENTAGRAM",
        "LEFT-HANDED INTERLACED PENTAGRAM;INVERTED PENTAGRAM;BLACK CROSS ON SHIELD;SHINTO SHRINE;CHURCH",
        "CASTLE;HISTORIC SITE;GEAR WITHOUT HUB;GEAR WITH HANDLES;MAP SYMBOL FOR LIGHTHOUSE;MOUNTAIN",
        "UMBRELLA ON GROUND;FOUNTAIN;FLAG IN HOLE;FERRY;SAILBOAT;SQUARE FOUR CORNERS;SKIER;ICE SKATE",
        "PERSON WITH BALL;TENT;JAPANESE BANK SYMBOL;HEADSTONE GRAVEYARD SYMBOL;FUEL PUMP",
        "CUP ON BLACK SQUARE;WHITE FLAG WITH HORIZONTAL MIDDLE BLACK STRIPE;BLACK SAFETY SCISSORS",
        "UPPER BLADE SCISSORS;BLACK SCISSORS;LOWER BLADE SCISSORS;WHITE SCISSORS;WHITE HEAVY CHECK MARK",
        "TELEPHONE LOCATION SIGN;TAPE DRIVE;AIRPLANE;ENVELOPE;RAISED FIST;RAISED HAND;VICTORY HAND",
        "WRITING HAND;LOWER RIGHT PENCIL;PENCIL;UPPER RIGHT PENCIL;WHITE NIB;BLACK NIB;CHECK MARK",
        "HEAVY CHECK MARK;MULTIPLICATION X;HEAVY MULTIPLICATION X;BALLOT X;HEAVY BALLOT X",
        "OUTLINED GREEK CROSS;HEAVY GREEK CROSS;OPEN CENTRE CROSS;HEAVY OPEN CENTRE CROSS;LATIN CROSS",
        "SHADOWED WHITE LATIN CROSS;OUTLINED LATIN CROSS;MALTESE CROSS;STAR OF DAVID",
        "FOUR TEARDROP-SPOKED ASTERISK;FOUR BALLOON-SPOKED ASTERISK;HEAVY FOUR BALLOON-SPOKED ASTERISK",
        "FOUR CLUB-SPOKED ASTERISK;BLACK FOUR POINTED STAR;WHITE FOUR POINTED STAR;SPARKLES",
        "STRESS OUTLINED WHITE STAR;CIRCLED WHITE STAR;OPEN CENTRE BLACK STAR;BLACK CENTRE WHITE STAR",
        "OUTLINED BLACK STAR;HEAVY OUTLINED BLACK STAR;PINWHEEL STAR;SHADOWED WHITE STAR;HEAVY ASTERISK",
        "OPEN CENTRE ASTERISK;EIGHT SPOKED ASTERISK;EIGHT POINTED BLACK STAR;EIGHT POINTED PINWHEEL STAR",
        "SIX POINTED BLACK STAR;EIGHT POINTED RECTILINEAR BLACK STAR",
        "HEAVY EIGHT POINTED RECTILINEAR BLACK STAR;TWELVE POINTED BLACK STAR;SIXTEEN POINTED ASTERISK",
        "TEARDROP-SPOKED ASTERISK;OPEN CENTRE TEARDROP-SPOKED ASTERISK;HEAVY TEARDROP-SPOKED ASTERISK",
        "SIX PETALLED BLACK AND WHITE FLORETTE;BLACK FLORETTE;WHITE FLORETTE",
        "EIGHT PETALLED OUTLINED BLACK FLORETTE;CIRCLED OPEN CENTRE EIGHT POINTED STAR",
        "HEAVY TEARDROP-SPOKED PINWHEEL ASTERISK;SNOWFLAKE;TIGHT TRIFOLIATE SNOWFLAKE",
        "HEAVY CHEVRON SNOWFLAKE;SPARKLE;HEAVY SPARKLE;BALLOON-SPOKED ASTERISK",
        "EIGHT TEARDROP-SPOKED PROPELLER ASTERISK;HEAVY EIGHT TEARDROP-SPOKED PROPELLER ASTERISK",
        "CROSS MARK;SHADOWED WHITE CIRCLE;NEGATIVE SQUARED CROSS MARK",
        "LOWER RIGHT DROP-SHADOWED WHITE SQUARE;UPPER RIGHT DROP-SHADOWED WHITE SQUARE",
        "LOWER RIGHT SHADOWED WHITE SQUARE;UPPER RIGHT SHADOWED WHITE SQUARE;BLACK QUESTION MARK ORNAMENT",
        "WHITE QUESTION MARK ORNAMENT;WHITE EXCLAMATION MARK ORNAMENT;BLACK DIAMOND MINUS WHITE X",
        "HEAVY EXCLAMATION MARK SYMBOL;LIGHT VERTICAL BAR;MEDIUM VERTICAL BAR"]⟩,
    ⟨[("HEAVY ", 0x275a)], 1,
      ["VERTICAL BAR;SINGLE TURNED COMMA QUOTATION MARK ORNAMENT;SINGLE COMMA QUOTATION MARK ORNAMENT",
        "DOUBLE TURNED COMMA QUOTATION MARK ORNAMENT;DOUBLE COMMA QUOTATION MARK ORNAMENT",
        "LOW SINGLE COMMA QUOTATION MARK ORNAMENT;LOW DOUBLE COMMA QUOTATION MARK ORNAMENT"]⟩,
    ⟨[("", 0x2761)], 1,
      ["CURVED STEM PARAGRAPH SIGN ORNAMENT;HEAVY EXCLAMATION MARK ORNAMENT",
        "HEAVY HEART EXCLAMATION MARK ORNAMENT;HEAVY BLACK HEART;ROTATED HEAVY BLACK HEART BULLET",
        "FLORAL HEART;ROTATED FLORAL HEART BULLET"]⟩,
    ⟨[("MEDIUM ", 0x2768)], 1,
      ["LEFT PARENTHESIS ORNAMENT;RIGHT PARENTHESIS ORNAMENT;FLATTENED LEFT PARENTHESIS ORNAMENT",
        "FLATTENED RIGHT PARENTHESIS ORNAMENT;LEFT-POINTING ANGLE BRACKET ORNAMENT",
        "RIGHT-POINTING ANGLE BRACKET ORNAMENT"]⟩,
    ⟨[("HEAVY ", 0x276e)], 1,
      ["LEFT-POINTING ANGLE QUOTATION MARK ORNAMENT;RIGHT-POINTING ANGLE QUOTATION MARK ORNAMENT",
        "LEFT-POINTING ANGLE BRACKET ORNAMENT;RIGHT-POINTING ANGLE BRACKET ORNAMENT"]⟩,
    ⟨[("", 0x2772)], 1,
      ["LIGHT LEFT TORTOISE SHELL BRACKET ORNAMENT;LIGHT RIGHT TORTOISE SHELL BRACKET ORNAMENT",
        "MEDIUM LEFT CURLY BRACKET ORNAMENT;MEDIUM RIGHT CURLY BRACKET ORNAMENT"]⟩,
    ⟨[("", 0x277f)], 1, ["DINGBAT NEGATIVE CIRCLED NUMBER TEN"]⟩,
    ⟨[("", 0x2789)], 1, ["DINGBAT CIRCLED SANS-SERIF NUMBER TEN"]⟩,
    ⟨[("DINGBAT NEGATIVE CIRCLED SANS-SERIF ", 0x278a)], 1,
      ["DIGIT ONE;DIGIT TWO;DIGIT THREE;DIGIT FOUR;DIGIT FIVE;DIGIT SIX;DIGIT SEVEN;DIGIT EIGHT",
        "DIGIT NINE;NUMBER TEN"]⟩,
    ⟨[("HEAVY ", 0x2794)], 1,
      ["WIDE-HEADED RIGHTWARDS ARROW;PLUS SIGN;MINUS SIGN;DIVISION SIGN;SOUTH EAST ARROW;RIGHTWARDS ARROW",
        "NORTH EAST ARROW"]⟩,
    ⟨[("", 0x279b)], 1,
      ["DRAFTING POINT RIGHTWARDS ARROW;HEAVY ROUND-TIPPED RIGHTWARDS ARROW",
        "TRIANGLE-HEADED RIGHTWARDS ARROW;HEAVY TRIANGLE-HEADED RIGHTWARDS ARROW",
        "DASHED TRIANGLE-HEADED RIGHTWARDS ARROW;HEAVY DASHED TRIANGLE-HEADED RIGHTWARDS ARROW",
        "BLACK RIGHTWARDS ARROW;THREE-D TOP-LIGHTED RIGHTWARDS ARROWHEAD",
        "THREE-D BOTTOM-LIGHTED RIGHTWARDS ARROWHEAD;BLACK RIGHTWARDS ARROWHEAD",
        "HEAVY BLACK CURVED DOWNWARDS AND RIGHTWARDS ARROW;HEAVY BLACK CURVED UPWARDS AND RIGHTWARDS ARROW",
        "SQUAT BLACK RIGHTWARDS ARROW;HEAVY CONCAVE-POINTED BLACK RIGHTWARDS ARROW",
        "RIGHT-SHADED WHITE RIGHTWARDS ARROW;LEFT-SHADED WHITE RIGHTWARDS ARROW",
        "BACK-TILTED SHADOWED WHITE RIGHTWARDS ARROW;FRONT-TILTED SHADOWED WHITE RIGHTWARDS ARROW",
        "HEAVY LOWER RIGHT-SHADOWED WHITE RIGHTWARDS ARROW",
        "HEAVY UPPER RIGHT-SHADOWED WHITE RIGHTWARDS ARROW",
        "NOTCHED LOWER RIGHT-SHADOWED WHITE RIGHTWARDS ARROW;CURLY LOOP",
        "NOTCHED UPPER RIGHT-SHADOWED WHITE RIGHTWARDS ARROW;CIRCLED HEAVY WHITE RIGHTWARDS ARROW",
        "WHITE-FEATHERED RIGHTWARDS ARROW"]⟩,
    ⟨[("BLACK-FEATHERED ", 0x27b4), ("HEAVY BLACK-FEATHERED ", 0x27b7)], 1,
      ["SOUTH EAST ARROW;RIGHTWARDS ARROW;NORTH EAST ARROW"]⟩,
    ⟨[("", 0x27ba)], 1,
      ["TEARDROP-BARBED RIGHTWARDS ARROW;HEAVY TEARDROP-SHANKED RIGHTWARDS ARROW",
        "WEDGE-TAILED RIGHTWARDS ARROW;HEAVY WEDGE-TAILED RIGHTWARDS ARROW;OPEN-OUTLINED RIGHTWARDS ARROW",
        "DOUBLE CURLY LOOP"]⟩,
    ⟨[("", 0x2800)], 1, ["BRAILLE PATTERN BLANK"]⟩,
    ⟨[("BRAILLE PATTERN DOTS-", 0x2801)], 1,
      ["1;2;12;3;13;23;123;4;14;24;124;34;134;234;1234;5;15;25;125;35;135;235;1235;45;145;245;1245;345",
        "1345;2345;12345;6;16;26;126;36;136;236;1236;46;146;246;1246;346;1346;2346;12346;56;156;256;1256",
        "356;1356;2356;12356;456;1456;2456;12456;3456;13456;23456;123456;7;17;27;127;37;137;237;1237;47",
        "147;247;1247;347;1347;2347;12347;57;157;257;1257;357;1357;2357;12357;457;1457;2457;12457;3457",
        "13457;23457;123457;67;167;267;1267;367;1367;2367;12367;467;1467;2467;12467;3467;13467;23467",
        "123467;567;1567;2567;12567;3567;13567;23567;123567;4567;14567;24567;124567;34567;134567;234567",
        "1234567;8;18;28;128;38;138;238;1238;48;148;248;1248;348;1348;2348;12348;58;158;258;1258;358;1358",
        "2358;12358;458;1458;2458;12458;3458;13458;23458;123458;68;168;268;1268;368;1368;2368;12368;468",
        "1468;2468;12468;3468;13468;23468;123468;568;1568;2568;12568;3568;13568;23568;123568;4568;14568",
        "24568;124568;34568;134568;234568;1234568;78;178;278;1278;378;1378;2378;12378;478;1478;2478;12478",
        "3478;13478;23478;123478;578;1578;2578;12578;3578;13578;23578;123578;4578;14578;24578;124578;34578",
        "134578;234578;1234578;678;1678;2678;12678;3678;13678;23678;123678;4678;14678;24678;124678;34678",
        "134678;234678;1234678;5678;15678;25678;125678;35678;135678;235678;1235678;45678;145678;245678",
        "1245678;345678;1345678;2345678;12345678"]⟩,
    ⟨[("IDEOGRAPHIC ", 0x3000)], 1, ["SPACE;COMMA;FULL STOP"]⟩,
    ⟨[("", 0x3003)], 1,
      ["DITTO MARK;JAPANESE INDUSTRIAL STANDARD SYMBOL;IDEOGRAPHIC ITERATION MARK",
        "IDEOGRAPHIC CLOSING MARK;IDEOGRAPHIC NUMBER ZERO;LEFT ANGLE BRACKET;RIGHT ANGLE BRACKET",
        "LEFT DOUBLE ANGLE BRACKET;RIGHT DOUBLE ANGLE BRACKET;LEFT CORNER BRACKET;RIGHT CORNER BRACKET",
        "LEFT WHITE CORNER BRACKET;RIGHT WHITE CORNER BRACKET;LEFT BLACK LENTICULAR BRACKET",
        "RIGHT BLACK LENTICULAR BRACKET;POSTAL MARK;GETA MARK;LEFT TORTOISE SHELL BRACKET",
        "RIGHT TORTOISE SHELL BRACKET;LEFT WHITE LENTICULAR BRACKET;RIGHT WHITE LENTICULAR BRACKET",
        "LEFT WHITE TORTOISE SHELL BRACKET;RIGHT WHITE TORTOISE SHELL BRACKET;LEFT WHITE SQUARE BRACKET",
        "RIGHT WHITE SQUARE BRACKET;WAVE DASH;REVERSED DOUBLE PRIME QUOTATION MARK",
        "DOUBLE PRIME QUOTATION MARK;LOW DOUBLE PRIME QUOTATION MARK;POSTAL MARK FACE"]⟩,
    ⟨[("IDEOGRAPHIC ", 0x302a)], 1,
      ["LEVEL TONE MARK;RISING TONE MARK;DEPARTING TONE MARK;ENTERING TONE MARK"]⟩,
    ⟨[("", 0x302e)], 1, ["HANGUL SINGLE DOT TONE MARK;HANGUL DOUBLE DOT TONE MARK;WAVY DASH"]⟩,
    ⟨[("VERTICAL KANA REPEAT ", 0x3031)], 1,
      ["MARK;WITH VOICED SOUND MARK;MARK UPPER HALF;WITH VOICED SOUND MARK UPPER HALF;MARK LOWER HALF"]⟩,
    ⟨[("", 0x3036)], 1, ["CIRCLED POSTAL MARK;IDEOGRAPHIC TELEGRAPH LINE FEED SEPARATOR SYMBOL"]⟩,
    ⟨[("HANGZHOU NUMERAL ", 0x3038)], 1, ["TEN;TWENTY;THIRTY"]⟩,
    ⟨[("", 0x303b)], 1,
      ["VERTICAL IDEOGRAPHIC ITERATION MARK;MASU MARK;PART ALTERNATION MARK",
        "IDEOGRAPHIC VARIATION INDICATOR;IDEOGRAPHIC HALF FILL SPACE"]⟩,
    ⟨[("HIRAGANA LETTER ", 0x3041)], 1,
      ["SMALL A;A;SMALL I;I;SMALL U;U;SMALL E;E;SMALL O;O;KA;GA;KI;GI;KU;GU;KE;GE;KO;GO;SA;ZA;SI;ZI;SU;ZU",
        "SE;ZE;SO;ZO;TA;DA;TI;DI;SMALL TU;TU;DU;TE;DE;TO;DO;NA;NI;NU;NE;NO;HA;BA;PA;HI;BI;PI;HU;BU;PU;HE",
        "BE;PE;HO;BO;PO;MA;MI;MU;ME;MO;SMALL YA;YA;SMALL YU;YU;SMALL YO;YO;RA;RI;RU;RE;RO;SMALL WA;WA;WI",
        "WE;WO;N;VU;SMALL KA;SMALL KE"]⟩,
    ⟨[("COMBINING KATAKANA-HIRAGANA ", 0x3099), ("KATAKANA-HIRAGANA ", 0x309b)], 1,
      ["VOICED SOUND MARK;SEMI-VOICED SOUND MARK"]⟩,
    ⟨[("HIRAGANA ", 0x309d)], 1, ["ITERATION MARK;VOICED ITERATION MARK;DIGRAPH YORI"]⟩,
    ⟨[("", 0x30a0)], 1, ["KATAKANA-HIRAGANA DOUBLE HYPHEN"]⟩,
    ⟨[("KATAKANA LETTER ", 0x30a1)], 1,
      ["SMALL A;A;SMALL I;I;SMALL U;U;SMALL E;E;SMALL O;O;KA;GA;KI;GI;KU;GU;KE;GE;KO;GO;SA;ZA;SI;ZI;SU;ZU",
        "SE;ZE;SO;ZO;TA;DA;TI;DI;SMALL TU;TU;DU;TE;DE;TO;DO;NA;NI;NU;NE;NO;HA;BA;PA;HI;BI;PI;HU;BU;PU;HE",
        "BE;PE;HO;BO;PO;MA;MI;MU;ME;MO;SMALL YA;YA;SMALL YU;YU;SMALL YO;YO;RA;RI;RU;RE;RO;SMALL WA;WA;WI",
        "WE;WO;N;VU;SMALL KA;SMALL KE;VA;VI;VE;VO"]⟩,
    ⟨[("", 0x30fb)], 1, ["KATAKANA MIDDLE DOT;KATAKANA-HIRAGANA PROLONGED SOUND MARK"]⟩,
    ⟨[("KATAKANA ", 0x30fd)], 1, ["ITERATION MARK;VOICED ITERATION MARK;DIGRAPH KOTO"]⟩,
    ⟨[("VARIATION SELECTOR-", 0xfe00), ("VS", 0xfe00)], 1, ["1;2;3;4;5;6;7;8;9;10;11;12;13;14;15;16"]⟩]

end Conformance.Text
