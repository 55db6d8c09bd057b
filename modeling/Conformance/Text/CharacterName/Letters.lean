import Conformance.Text.CharacterName.Basic

/-!
# Names of letters

## Main Definitions

* `Text.letterNames` — the names of the letters of alphabets, with the marks and signs between them
-/

namespace Conformance.Text

/-- The names of the letters of the European and Near Eastern alphabets, of letters in other shapes, and of
the marks and signs in their blocks. -/
def letterNames : List NameRun :=
  [
    ⟨[("", 0x20)], 1,
      ["SPACE;EXCLAMATION MARK;QUOTATION MARK;NUMBER SIGN;DOLLAR SIGN;PERCENT SIGN;AMPERSAND;APOSTROPHE",
        "LEFT PARENTHESIS;RIGHT PARENTHESIS;ASTERISK;PLUS SIGN;COMMA;HYPHEN-MINUS;FULL STOP;SOLIDUS"]⟩,
    ⟨[("", 0x3a), ("FULLWIDTH ", 0xff1a)], 1,
      ["COLON;SEMICOLON;LESS-THAN SIGN;EQUALS SIGN;GREATER-THAN SIGN;QUESTION MARK;COMMERCIAL AT"]⟩,
    ⟨[("LATIN CAPITAL LETTER ", 0x41), ("LATIN SMALL LETTER ", 0x61),
      ("CIRCLED LATIN CAPITAL LETTER ", 0x24b6), ("CIRCLED LATIN SMALL LETTER ", 0x24d0),
      ("FULLWIDTH LATIN CAPITAL LETTER ", 0xff21), ("FULLWIDTH LATIN SMALL LETTER ", 0xff41),
      ("PARENTHESIZED LATIN SMALL LETTER ", 0x249c), ("MATHEMATICAL BOLD CAPITAL ", 0x1d400),
      ("MATHEMATICAL BOLD SMALL ", 0x1d41a), ("MATHEMATICAL ITALIC CAPITAL ", 0x1d434),
      ("MATHEMATICAL BOLD ITALIC CAPITAL ", 0x1d468), ("MATHEMATICAL BOLD ITALIC SMALL ", 0x1d482),
      ("MATHEMATICAL BOLD SCRIPT CAPITAL ", 0x1d4d0), ("MATHEMATICAL BOLD SCRIPT SMALL ", 0x1d4ea),
      ("MATHEMATICAL FRAKTUR SMALL ", 0x1d51e), ("MATHEMATICAL DOUBLE-STRUCK SMALL ", 0x1d552),
      ("MATHEMATICAL BOLD FRAKTUR CAPITAL ", 0x1d56c), ("MATHEMATICAL BOLD FRAKTUR SMALL ", 0x1d586),
      ("MATHEMATICAL SANS-SERIF CAPITAL ", 0x1d5a0), ("MATHEMATICAL SANS-SERIF SMALL ", 0x1d5ba),
      ("MATHEMATICAL SANS-SERIF BOLD CAPITAL ", 0x1d5d4),
      ("MATHEMATICAL SANS-SERIF BOLD SMALL ", 0x1d5ee),
      ("MATHEMATICAL SANS-SERIF ITALIC CAPITAL ", 0x1d608),
      ("MATHEMATICAL SANS-SERIF ITALIC SMALL ", 0x1d622),
      ("MATHEMATICAL SANS-SERIF BOLD ITALIC CAPITAL ", 0x1d63c),
      ("MATHEMATICAL SANS-SERIF BOLD ITALIC SMALL ", 0x1d656),
      ("MATHEMATICAL MONOSPACE CAPITAL ", 0x1d670), ("MATHEMATICAL MONOSPACE SMALL ", 0x1d68a),
      ("PARENTHESIZED LATIN CAPITAL LETTER ", 0x1f110), ("SQUARED LATIN CAPITAL LETTER ", 0x1f130),
      ("NEGATIVE CIRCLED LATIN CAPITAL LETTER ", 0x1f150),
      ("NEGATIVE SQUARED LATIN CAPITAL LETTER ", 0x1f170), ("REGIONAL INDICATOR SYMBOL LETTER ", 0x1f1e6)], 1,
      ["A;B;C;D;E;F;G;H;I;J;K;L;M;N;O;P;Q;R;S;T;U;V;W;X;Y;Z"]⟩,
    ⟨[("", 0x5b), ("FULLWIDTH ", 0xff3b)], 1,
      ["LEFT SQUARE BRACKET;REVERSE SOLIDUS;RIGHT SQUARE BRACKET;CIRCUMFLEX ACCENT;LOW LINE;GRAVE ACCENT"]⟩,
    ⟨[("", 0x7b)], 1, ["LEFT CURLY BRACKET;VERTICAL LINE;RIGHT CURLY BRACKET;TILDE"]⟩,
    ⟨[("", 0xa0)], 1,
      ["NO-BREAK SPACE;INVERTED EXCLAMATION MARK;CENT SIGN;POUND SIGN;CURRENCY SIGN;YEN SIGN;BROKEN BAR",
        "SECTION SIGN;DIAERESIS;COPYRIGHT SIGN;FEMININE ORDINAL INDICATOR",
        "LEFT-POINTING DOUBLE ANGLE QUOTATION MARK;NOT SIGN;SOFT HYPHEN;REGISTERED SIGN;MACRON;DEGREE SIGN",
        "PLUS-MINUS SIGN;SUPERSCRIPT TWO;SUPERSCRIPT THREE;ACUTE ACCENT;MICRO SIGN;PILCROW SIGN;MIDDLE DOT",
        "CEDILLA;SUPERSCRIPT ONE;MASCULINE ORDINAL INDICATOR;RIGHT-POINTING DOUBLE ANGLE QUOTATION MARK",
        "VULGAR FRACTION ONE QUARTER;VULGAR FRACTION ONE HALF;VULGAR FRACTION THREE QUARTERS",
        "INVERTED QUESTION MARK"]⟩,
    ⟨[("LATIN CAPITAL LETTER ", 0xc0), ("LATIN SMALL LETTER ", 0xe0)], 1,
      ["A WITH GRAVE;A WITH ACUTE;A WITH CIRCUMFLEX;A WITH TILDE;A WITH DIAERESIS;A WITH RING ABOVE;AE",
        "C WITH CEDILLA;E WITH GRAVE;E WITH ACUTE;E WITH CIRCUMFLEX;E WITH DIAERESIS;I WITH GRAVE",
        "I WITH ACUTE;I WITH CIRCUMFLEX;I WITH DIAERESIS;ETH;N WITH TILDE;O WITH GRAVE;O WITH ACUTE",
        "O WITH CIRCUMFLEX;O WITH TILDE;O WITH DIAERESIS"]⟩,
    ⟨[("", 0xd7)], 1, ["MULTIPLICATION SIGN"]⟩,
    ⟨[("LATIN CAPITAL LETTER ", 0xd8), ("LATIN SMALL LETTER ", 0xf8)], 1,
      ["O WITH STROKE;U WITH GRAVE;U WITH ACUTE;U WITH CIRCUMFLEX;U WITH DIAERESIS;Y WITH ACUTE;THORN"]⟩,
    ⟨[("", 0xf7)], 1, ["DIVISION SIGN"]⟩,
    ⟨[("LATIN CAPITAL LETTER ", 0x100), ("LATIN SMALL LETTER ", 0x101)], 2,
      ["A WITH MACRON;A WITH BREVE;A WITH OGONEK;C WITH ACUTE;C WITH CIRCUMFLEX;C WITH DOT ABOVE",
        "C WITH CARON;D WITH CARON;D WITH STROKE;E WITH MACRON;E WITH BREVE;E WITH DOT ABOVE;E WITH OGONEK",
        "E WITH CARON;G WITH CIRCUMFLEX;G WITH BREVE;G WITH DOT ABOVE;G WITH CEDILLA;H WITH CIRCUMFLEX",
        "H WITH STROKE;I WITH TILDE;I WITH MACRON;I WITH BREVE;I WITH OGONEK"]⟩,
    ⟨[("LATIN ", 0x130)], 1, ["CAPITAL LETTER I WITH DOT ABOVE;SMALL LETTER DOTLESS I"]⟩,
    ⟨[("LATIN CAPITAL LIGATURE ", 0x132), ("LATIN SMALL LIGATURE ", 0x133)], 1, ["IJ"]⟩,
    ⟨[("LATIN CAPITAL LETTER ", 0x134), ("LATIN SMALL LETTER ", 0x135)], 2,
      ["J WITH CIRCUMFLEX;K WITH CEDILLA"]⟩,
    ⟨[("", 0x138)], 1, ["LATIN SMALL LETTER KRA"]⟩,
    ⟨[("LATIN CAPITAL LETTER ", 0x139), ("LATIN SMALL LETTER ", 0x13a)], 2,
      ["L WITH ACUTE;L WITH CEDILLA;L WITH CARON;L WITH MIDDLE DOT;L WITH STROKE;N WITH ACUTE",
        "N WITH CEDILLA;N WITH CARON"]⟩,
    ⟨[("", 0x149)], 1, ["LATIN SMALL LETTER N PRECEDED BY APOSTROPHE"]⟩,
    ⟨[("LATIN CAPITAL LETTER ", 0x14a), ("LATIN SMALL LETTER ", 0x14b)], 2,
      ["ENG;O WITH MACRON;O WITH BREVE;O WITH DOUBLE ACUTE"]⟩,
    ⟨[("LATIN CAPITAL LIGATURE ", 0x152), ("LATIN SMALL LIGATURE ", 0x153)], 1, ["OE"]⟩,
    ⟨[("LATIN CAPITAL LETTER ", 0x154), ("LATIN SMALL LETTER ", 0x155)], 2,
      ["R WITH ACUTE;R WITH CEDILLA;R WITH CARON;S WITH ACUTE;S WITH CIRCUMFLEX;S WITH CEDILLA",
        "S WITH CARON;T WITH CEDILLA;T WITH CARON;T WITH STROKE;U WITH TILDE;U WITH MACRON;U WITH BREVE",
        "U WITH RING ABOVE;U WITH DOUBLE ACUTE;U WITH OGONEK;W WITH CIRCUMFLEX;Y WITH CIRCUMFLEX"]⟩,
    ⟨[("LATIN CAPITAL LETTER ", 0x178), ("LATIN SMALL LETTER ", 0xff)], 1, ["Y WITH DIAERESIS"]⟩,
    ⟨[("LATIN CAPITAL LETTER ", 0x179), ("LATIN SMALL LETTER ", 0x17a)], 2,
      ["Z WITH ACUTE;Z WITH DOT ABOVE;Z WITH CARON"]⟩,
    ⟨[("", 0x17f)], 1, ["LATIN SMALL LETTER LONG S"]⟩,
    ⟨[("LATIN CAPITAL LETTER ", 0x181), ("LATIN SMALL LETTER ", 0x253)], 1, ["B WITH HOOK"]⟩,
    ⟨[("LATIN CAPITAL LETTER ", 0x182), ("LATIN SMALL LETTER ", 0x183)], 2, ["B WITH TOPBAR;TONE SIX"]⟩,
    ⟨[("LATIN CAPITAL LETTER ", 0x186), ("LATIN SMALL LETTER ", 0x254)], 1, ["OPEN O"]⟩,
    ⟨[("LATIN CAPITAL LETTER ", 0x187), ("LATIN SMALL LETTER ", 0x188)], 1, ["C WITH HOOK"]⟩,
    ⟨[("", 0x189)], 1, ["LATIN CAPITAL LETTER AFRICAN D"]⟩,
    ⟨[("LATIN CAPITAL LETTER ", 0x18a), ("LATIN SMALL LETTER ", 0x257)], 1, ["D WITH HOOK"]⟩,
    ⟨[("LATIN CAPITAL LETTER ", 0x18b), ("LATIN SMALL LETTER ", 0x18c)], 1, ["D WITH TOPBAR"]⟩,
    ⟨[("LATIN ", 0x18d)], 1, ["SMALL LETTER TURNED DELTA;CAPITAL LETTER REVERSED E"]⟩,
    ⟨[("LATIN CAPITAL LETTER ", 0x18f), ("LATIN SMALL LETTER ", 0x259)], 1, ["SCHWA"]⟩,
    ⟨[("LATIN CAPITAL LETTER ", 0x190), ("LATIN SMALL LETTER ", 0x25b)], 1, ["OPEN E"]⟩,
    ⟨[("LATIN CAPITAL LETTER ", 0x191), ("LATIN SMALL LETTER ", 0x192)], 1, ["F WITH HOOK"]⟩,
    ⟨[("LATIN CAPITAL LETTER ", 0x193), ("LATIN SMALL LETTER ", 0x260)], 1, ["G WITH HOOK"]⟩,
    ⟨[("LATIN CAPITAL LETTER ", 0x194), ("LATIN SMALL LETTER ", 0x263)], 1, ["GAMMA"]⟩,
    ⟨[("", 0x195)], 1, ["LATIN SMALL LETTER HV"]⟩,
    ⟨[("LATIN CAPITAL LETTER ", 0x196), ("LATIN SMALL LETTER ", 0x269)], 1, ["IOTA"]⟩,
    ⟨[("LATIN CAPITAL LETTER ", 0x197), ("LATIN SMALL LETTER ", 0x268)], 1, ["I WITH STROKE"]⟩,
    ⟨[("LATIN CAPITAL LETTER ", 0x198), ("LATIN SMALL LETTER ", 0x199)], 1, ["K WITH HOOK"]⟩,
    ⟨[("", 0x19b)], 1, ["LATIN SMALL LETTER LAMBDA WITH STROKE"]⟩,
    ⟨[("LATIN CAPITAL LETTER ", 0x19c), ("LATIN SMALL LETTER ", 0x26f)], 1, ["TURNED M"]⟩,
    ⟨[("LATIN CAPITAL LETTER ", 0x19d), ("LATIN SMALL LETTER ", 0x272)], 1, ["N WITH LEFT HOOK"]⟩,
    ⟨[("", 0x19f)], 1, ["LATIN CAPITAL LETTER O WITH MIDDLE TILDE"]⟩,
    ⟨[("LATIN CAPITAL LETTER ", 0x1a0), ("LATIN SMALL LETTER ", 0x1a1)], 2, ["O WITH HORN;OI;P WITH HOOK"]⟩,
    ⟨[("", 0x1a6)], 1, ["LATIN LETTER YR"]⟩,
    ⟨[("LATIN CAPITAL LETTER ", 0x1a7), ("LATIN SMALL LETTER ", 0x1a8)], 1, ["TONE TWO"]⟩,
    ⟨[("LATIN CAPITAL LETTER ", 0x1a9), ("LATIN SMALL LETTER ", 0x283)], 1, ["ESH"]⟩,
    ⟨[("LATIN ", 0x1aa)], 1, ["LETTER REVERSED ESH LOOP;SMALL LETTER T WITH PALATAL HOOK"]⟩,
    ⟨[("LATIN CAPITAL LETTER ", 0x1ac), ("LATIN SMALL LETTER ", 0x1ad)], 1, ["T WITH HOOK"]⟩,
    ⟨[("LATIN CAPITAL LETTER ", 0x1ae), ("LATIN SMALL LETTER ", 0x288)], 1, ["T WITH RETROFLEX HOOK"]⟩,
    ⟨[("LATIN CAPITAL LETTER ", 0x1af), ("LATIN SMALL LETTER ", 0x1b0)], 1, ["U WITH HORN"]⟩,
    ⟨[("LATIN CAPITAL LETTER ", 0x1b1), ("LATIN SMALL LETTER ", 0x28a)], 1, ["UPSILON;V WITH HOOK"]⟩,
    ⟨[("LATIN CAPITAL LETTER ", 0x1b3), ("LATIN SMALL LETTER ", 0x1b4)], 2, ["Y WITH HOOK;Z WITH STROKE"]⟩,
    ⟨[("LATIN CAPITAL LETTER ", 0x1b7), ("LATIN SMALL LETTER ", 0x292)], 1, ["EZH"]⟩,
    ⟨[("LATIN CAPITAL LETTER ", 0x1b8), ("LATIN SMALL LETTER ", 0x1b9)], 1, ["EZH REVERSED"]⟩,
    ⟨[("LATIN ", 0x1ba)], 1, ["SMALL LETTER EZH WITH TAIL;LETTER TWO WITH STROKE"]⟩,
    ⟨[("LATIN CAPITAL LETTER ", 0x1bc), ("LATIN SMALL LETTER ", 0x1bd)], 1, ["TONE FIVE"]⟩,
    ⟨[("LATIN LETTER ", 0x1be)], 1,
      ["INVERTED GLOTTAL STOP WITH STROKE;WYNN;DENTAL CLICK;LATERAL CLICK;ALVEOLAR CLICK;RETROFLEX CLICK"]⟩,
    ⟨[("LATIN CAPITAL LETTER ", 0x1c4), ("LATIN SMALL LETTER ", 0x1c6)], 1, ["DZ WITH CARON"]⟩,
    ⟨[("", 0x1c5)], 1, ["LATIN CAPITAL LETTER D WITH SMALL LETTER Z WITH CARON"]⟩,
    ⟨[("LATIN CAPITAL LETTER ", 0x1c7), ("LATIN SMALL LETTER ", 0x1c9)], 1, ["LJ"]⟩,
    ⟨[("", 0x1c8)], 1, ["LATIN CAPITAL LETTER L WITH SMALL LETTER J"]⟩,
    ⟨[("LATIN CAPITAL LETTER ", 0x1ca), ("LATIN SMALL LETTER ", 0x1cc)], 1, ["NJ"]⟩,
    ⟨[("", 0x1cb)], 1, ["LATIN CAPITAL LETTER N WITH SMALL LETTER J"]⟩,
    ⟨[("LATIN CAPITAL LETTER ", 0x1cd), ("LATIN SMALL LETTER ", 0x1ce)], 2,
      ["A WITH CARON;I WITH CARON;O WITH CARON;U WITH CARON;U WITH DIAERESIS AND MACRON",
        "U WITH DIAERESIS AND ACUTE;U WITH DIAERESIS AND CARON;U WITH DIAERESIS AND GRAVE"]⟩,
    ⟨[("", 0x1dd)], 1, ["LATIN SMALL LETTER TURNED E"]⟩,
    ⟨[("LATIN CAPITAL LETTER ", 0x1de), ("LATIN SMALL LETTER ", 0x1df)], 2,
      ["A WITH DIAERESIS AND MACRON;A WITH DOT ABOVE AND MACRON;AE WITH MACRON;G WITH STROKE;G WITH CARON",
        "K WITH CARON;O WITH OGONEK;O WITH OGONEK AND MACRON;EZH WITH CARON"]⟩,
    ⟨[("", 0x1f0)], 1, ["LATIN SMALL LETTER J WITH CARON"]⟩,
    ⟨[("LATIN CAPITAL LETTER ", 0x1f1), ("LATIN SMALL LETTER ", 0x1f3)], 1, ["DZ"]⟩,
    ⟨[("", 0x1f2)], 1, ["LATIN CAPITAL LETTER D WITH SMALL LETTER Z"]⟩,
    ⟨[("LATIN CAPITAL LETTER ", 0x1f4), ("LATIN SMALL LETTER ", 0x1f5)], 1, ["G WITH ACUTE"]⟩,
    ⟨[("LATIN CAPITAL LETTER ", 0x1f6)], 1, ["HWAIR;WYNN"]⟩,
    ⟨[("LATIN CAPITAL LETTER ", 0x1f8), ("LATIN SMALL LETTER ", 0x1f9)], 2,
      ["N WITH GRAVE;A WITH RING ABOVE AND ACUTE;AE WITH ACUTE;O WITH STROKE AND ACUTE",
        "A WITH DOUBLE GRAVE;A WITH INVERTED BREVE;E WITH DOUBLE GRAVE;E WITH INVERTED BREVE",
        "I WITH DOUBLE GRAVE;I WITH INVERTED BREVE;O WITH DOUBLE GRAVE;O WITH INVERTED BREVE",
        "R WITH DOUBLE GRAVE;R WITH INVERTED BREVE;U WITH DOUBLE GRAVE;U WITH INVERTED BREVE",
        "S WITH COMMA BELOW;T WITH COMMA BELOW;YOGH;H WITH CARON"]⟩,
    ⟨[("LATIN CAPITAL LETTER ", 0x220), ("LATIN SMALL LETTER ", 0x19e)], 1, ["N WITH LONG RIGHT LEG"]⟩,
    ⟨[("", 0x221)], 1, ["LATIN SMALL LETTER D WITH CURL"]⟩,
    ⟨[("LATIN CAPITAL LETTER ", 0x222), ("LATIN SMALL LETTER ", 0x223)], 2,
      ["OU;Z WITH HOOK;A WITH DOT ABOVE;E WITH CEDILLA;O WITH DIAERESIS AND MACRON",
        "O WITH TILDE AND MACRON;O WITH DOT ABOVE;O WITH DOT ABOVE AND MACRON;Y WITH MACRON"]⟩,
    ⟨[("LATIN SMALL LETTER ", 0x234)], 1,
      ["L WITH CURL;N WITH CURL;T WITH CURL;DOTLESS J;DB DIGRAPH;QP DIGRAPH"]⟩,
    ⟨[("LATIN CAPITAL LETTER ", 0x23a), ("LATIN SMALL LETTER ", 0x2c65)], 1, ["A WITH STROKE"]⟩,
    ⟨[("LATIN CAPITAL LETTER ", 0x23b), ("LATIN SMALL LETTER ", 0x23c)], 1, ["C WITH STROKE"]⟩,
    ⟨[("LATIN CAPITAL LETTER ", 0x23d), ("LATIN SMALL LETTER ", 0x19a)], 1, ["L WITH BAR"]⟩,
    ⟨[("LATIN CAPITAL LETTER ", 0x23e), ("LATIN SMALL LETTER ", 0x2c66)], 1, ["T WITH DIAGONAL STROKE"]⟩,
    ⟨[("LATIN CAPITAL LETTER ", 0x241), ("LATIN SMALL LETTER ", 0x242)], 1, ["GLOTTAL STOP"]⟩,
    ⟨[("LATIN CAPITAL LETTER ", 0x243), ("LATIN SMALL LETTER ", 0x180)], 1, ["B WITH STROKE"]⟩,
    ⟨[("LATIN CAPITAL LETTER ", 0x244), ("LATIN SMALL LETTER ", 0x289)], 1, ["U BAR"]⟩,
    ⟨[("LATIN CAPITAL LETTER ", 0x245), ("LATIN SMALL LETTER ", 0x28c)], 1, ["TURNED V"]⟩,
    ⟨[("LATIN CAPITAL LETTER ", 0x246), ("LATIN SMALL LETTER ", 0x247)], 2, ["E WITH STROKE;J WITH STROKE"]⟩,
    ⟨[("LATIN ", 0x24a)], 1, ["CAPITAL LETTER SMALL Q WITH HOOK TAIL;SMALL LETTER Q WITH HOOK TAIL"]⟩,
    ⟨[("LATIN CAPITAL LETTER ", 0x24c), ("LATIN SMALL LETTER ", 0x24d)], 2, ["R WITH STROKE;Y WITH STROKE"]⟩,
    ⟨[("LATIN SMALL LETTER ", 0x255)], 1, ["C WITH CURL;D WITH TAIL"]⟩,
    ⟨[("", 0x258)], 1, ["LATIN SMALL LETTER REVERSED E"]⟩,
    ⟨[("", 0x25a)], 1, ["LATIN SMALL LETTER SCHWA WITH HOOK"]⟩,
    ⟨[("LATIN SMALL LETTER ", 0x25d)], 1,
      ["REVERSED OPEN E WITH HOOK;CLOSED REVERSED OPEN E;DOTLESS J WITH STROKE"]⟩,
    ⟨[("", 0x262)], 1, ["LATIN LETTER SMALL CAPITAL G"]⟩,
    ⟨[("", 0x264)], 1, ["LATIN SMALL LETTER RAMS HORN"]⟩,
    ⟨[("", 0x267)], 1, ["LATIN SMALL LETTER HENG WITH HOOK"]⟩,
    ⟨[("", 0x26a)], 1, ["LATIN LETTER SMALL CAPITAL I"]⟩,
    ⟨[("LATIN SMALL LETTER ", 0x26d)], 1, ["L WITH RETROFLEX HOOK;LEZH"]⟩,
    ⟨[("", 0x270)], 1, ["LATIN SMALL LETTER TURNED M WITH LONG LEG"]⟩,
    ⟨[("LATIN ", 0x273)], 1,
      ["SMALL LETTER N WITH RETROFLEX HOOK;LETTER SMALL CAPITAL N;SMALL LETTER BARRED O",
        "LETTER SMALL CAPITAL OE"]⟩,
    ⟨[("LATIN SMALL LETTER ", 0x277)], 1,
      ["CLOSED OMEGA;PHI;TURNED R;TURNED R WITH LONG LEG;TURNED R WITH HOOK;R WITH LONG LEG"]⟩,
    ⟨[("LATIN SMALL LETTER ", 0x27e)], 1, ["R WITH FISHHOOK;REVERSED R WITH FISHHOOK"]⟩,
    ⟨[("LATIN LETTER SMALL CAPITAL ", 0x280)], 1, ["R;INVERTED R"]⟩,
    ⟨[("LATIN SMALL LETTER ", 0x284)], 1,
      ["DOTLESS J WITH STROKE AND HOOK;SQUAT REVERSED ESH;ESH WITH CURL"]⟩,
    ⟨[("LATIN ", 0x28d)], 1,
      ["SMALL LETTER TURNED W;SMALL LETTER TURNED Y;LETTER SMALL CAPITAL Y",
        "SMALL LETTER Z WITH RETROFLEX HOOK;SMALL LETTER Z WITH CURL"]⟩,
    ⟨[("LATIN ", 0x293)], 1,
      ["SMALL LETTER EZH WITH CURL;LETTER GLOTTAL STOP;LETTER PHARYNGEAL VOICED FRICATIVE",
        "LETTER INVERTED GLOTTAL STOP;LETTER STRETCHED C;LETTER BILABIAL CLICK;LETTER SMALL CAPITAL B",
        "SMALL LETTER CLOSED OPEN E;LETTER SMALL CAPITAL G WITH HOOK;LETTER SMALL CAPITAL H"]⟩,
    ⟨[("LATIN ", 0x29f)], 1,
      ["LETTER SMALL CAPITAL L;SMALL LETTER Q WITH HOOK;LETTER GLOTTAL STOP WITH STROKE",
        "LETTER REVERSED GLOTTAL STOP WITH STROKE"]⟩,
    ⟨[("LATIN SMALL LETTER ", 0x2a3)], 1,
      ["DZ DIGRAPH;DEZH DIGRAPH;DZ DIGRAPH WITH CURL;TS DIGRAPH;TESH DIGRAPH;TC DIGRAPH WITH CURL",
        "FENG DIGRAPH;LS DIGRAPH;LZ DIGRAPH"]⟩,
    ⟨[("LATIN LETTER ", 0x2ac)], 1, ["BILABIAL PERCUSSIVE;BIDENTAL PERCUSSIVE"]⟩,
    ⟨[("LATIN SMALL LETTER TURNED H WITH ", 0x2ae)], 1, ["FISHHOOK;FISHHOOK AND TAIL"]⟩,
    ⟨[("MODIFIER LETTER SMALL ", 0x2b0)], 1,
      ["H;H WITH HOOK;J;R;TURNED R;TURNED R WITH HOOK;CAPITAL INVERTED R;W;Y"]⟩,
    ⟨[("MODIFIER LETTER ", 0x2b9)], 1,
      ["PRIME;DOUBLE PRIME;TURNED COMMA;APOSTROPHE;REVERSED COMMA;RIGHT HALF RING;LEFT HALF RING",
        "GLOTTAL STOP;REVERSED GLOTTAL STOP;LEFT ARROWHEAD;RIGHT ARROWHEAD;UP ARROWHEAD;DOWN ARROWHEAD",
        "CIRCUMFLEX ACCENT"]⟩,
    ⟨[("", 0x2c7)], 1, ["CARON"]⟩,
    ⟨[("MODIFIER LETTER ", 0x2c8)], 1,
      ["VERTICAL LINE;MACRON;ACUTE ACCENT;GRAVE ACCENT;LOW VERTICAL LINE;LOW MACRON;LOW GRAVE ACCENT",
        "LOW ACUTE ACCENT;TRIANGULAR COLON;HALF TRIANGULAR COLON;CENTRED RIGHT HALF RING",
        "CENTRED LEFT HALF RING;UP TACK;DOWN TACK;PLUS SIGN;MINUS SIGN"]⟩,
    ⟨[("", 0x2d8)], 1, ["BREVE;DOT ABOVE;RING ABOVE;OGONEK;SMALL TILDE;DOUBLE ACUTE ACCENT"]⟩,
    ⟨[("MODIFIER LETTER ", 0x2de)], 1,
      ["RHOTIC HOOK;CROSS ACCENT;SMALL GAMMA;SMALL L;SMALL S;SMALL X;SMALL REVERSED GLOTTAL STOP",
        "EXTRA-HIGH TONE BAR;HIGH TONE BAR;MID TONE BAR;LOW TONE BAR;EXTRA-LOW TONE BAR",
        "YIN DEPARTING TONE MARK;YANG DEPARTING TONE MARK;VOICING;UNASPIRATED;DOUBLE APOSTROPHE",
        "LOW DOWN ARROWHEAD;LOW UP ARROWHEAD;LOW LEFT ARROWHEAD;LOW RIGHT ARROWHEAD;LOW RING",
        "MIDDLE GRAVE ACCENT;MIDDLE DOUBLE GRAVE ACCENT;MIDDLE DOUBLE ACUTE ACCENT;LOW TILDE;RAISED COLON",
        "BEGIN HIGH TONE;END HIGH TONE;BEGIN LOW TONE;END LOW TONE;SHELF;OPEN SHELF;LOW LEFT ARROW"]⟩,
    ⟨[("COMBINING ", 0x300)], 1,
      ["GRAVE ACCENT;ACUTE ACCENT;CIRCUMFLEX ACCENT;TILDE;MACRON;OVERLINE;BREVE;DOT ABOVE;DIAERESIS",
        "HOOK ABOVE;RING ABOVE;DOUBLE ACUTE ACCENT;CARON;VERTICAL LINE ABOVE;DOUBLE VERTICAL LINE ABOVE",
        "DOUBLE GRAVE ACCENT;CANDRABINDU;INVERTED BREVE;TURNED COMMA ABOVE;COMMA ABOVE",
        "REVERSED COMMA ABOVE;COMMA ABOVE RIGHT;GRAVE ACCENT BELOW;ACUTE ACCENT BELOW;LEFT TACK BELOW",
        "RIGHT TACK BELOW;LEFT ANGLE ABOVE;HORN;LEFT HALF RING BELOW;UP TACK BELOW;DOWN TACK BELOW",
        "PLUS SIGN BELOW;MINUS SIGN BELOW;PALATALIZED HOOK BELOW;RETROFLEX HOOK BELOW;DOT BELOW",
        "DIAERESIS BELOW;RING BELOW;COMMA BELOW;CEDILLA;OGONEK;VERTICAL LINE BELOW;BRIDGE BELOW",
        "INVERTED DOUBLE ARCH BELOW;CARON BELOW;CIRCUMFLEX ACCENT BELOW;BREVE BELOW;INVERTED BREVE BELOW",
        "TILDE BELOW;MACRON BELOW;LOW LINE;DOUBLE LOW LINE;TILDE OVERLAY;SHORT STROKE OVERLAY",
        "LONG STROKE OVERLAY;SHORT SOLIDUS OVERLAY;LONG SOLIDUS OVERLAY;RIGHT HALF RING BELOW",
        "INVERTED BRIDGE BELOW;SQUARE BELOW;SEAGULL BELOW;X ABOVE;VERTICAL TILDE;DOUBLE OVERLINE",
        "GRAVE TONE MARK;ACUTE TONE MARK;GREEK PERISPOMENI;GREEK KORONIS;GREEK DIALYTIKA TONOS",
        "GREEK YPOGEGRAMMENI;BRIDGE ABOVE;EQUALS SIGN BELOW;DOUBLE VERTICAL LINE BELOW;LEFT ANGLE BELOW",
        "NOT TILDE ABOVE;HOMOTHETIC ABOVE;ALMOST EQUAL TO ABOVE;LEFT RIGHT ARROW BELOW;UPWARDS ARROW BELOW",
        "GRAPHEME JOINER;RIGHT ARROWHEAD ABOVE;LEFT HALF RING ABOVE;FERMATA;X BELOW;LEFT ARROWHEAD BELOW",
        "RIGHT ARROWHEAD BELOW;RIGHT ARROWHEAD AND UP ARROWHEAD BELOW;RIGHT HALF RING ABOVE",
        "DOT ABOVE RIGHT;ASTERISK BELOW;DOUBLE RING BELOW;ZIGZAG ABOVE"]⟩,
    ⟨[("COMBINING DOUBLE ", 0x35c)], 1,
      ["BREVE BELOW;BREVE;MACRON;MACRON BELOW;TILDE;INVERTED BREVE;RIGHTWARDS ARROW BELOW"]⟩,
    ⟨[("COMBINING LATIN SMALL LETTER ", 0x363)], 1, ["A;E;I;O;U;C;D;H;M;R;T;V;X"]⟩,
    ⟨[("GREEK CAPITAL LETTER ", 0x370), ("GREEK SMALL LETTER ", 0x371)], 2, ["HETA;ARCHAIC SAMPI"]⟩,
    ⟨[("GREEK ", 0x374)], 1, ["NUMERAL SIGN;LOWER NUMERAL SIGN"]⟩,
    ⟨[("GREEK CAPITAL LETTER ", 0x376), ("GREEK SMALL LETTER ", 0x377)], 1, ["PAMPHYLIAN DIGAMMA"]⟩,
    ⟨[("", 0x37a)], 1, ["GREEK YPOGEGRAMMENI"]⟩,
    ⟨[("GREEK ", 0x37e)], 1, ["QUESTION MARK;CAPITAL LETTER YOT"]⟩,
    ⟨[("GREEK ", 0x384)], 1, ["TONOS;DIALYTIKA TONOS"]⟩,
    ⟨[("GREEK CAPITAL LETTER ", 0x386), ("GREEK SMALL LETTER ", 0x3ac)], 1, ["ALPHA WITH TONOS"]⟩,
    ⟨[("", 0x387)], 1, ["GREEK ANO TELEIA"]⟩,
    ⟨[("GREEK CAPITAL LETTER ", 0x388), ("GREEK SMALL LETTER ", 0x3ad)], 1,
      ["EPSILON WITH TONOS;ETA WITH TONOS;IOTA WITH TONOS"]⟩,
    ⟨[("GREEK CAPITAL LETTER ", 0x38c), ("GREEK SMALL LETTER ", 0x3cc)], 1, ["OMICRON WITH TONOS"]⟩,
    ⟨[("GREEK CAPITAL LETTER ", 0x38e), ("GREEK SMALL LETTER ", 0x3cd)], 1,
      ["UPSILON WITH TONOS;OMEGA WITH TONOS"]⟩,
    ⟨[("", 0x390)], 1, ["GREEK SMALL LETTER IOTA WITH DIALYTIKA AND TONOS"]⟩,
    ⟨[("GREEK CAPITAL LETTER ", 0x391), ("GREEK SMALL LETTER ", 0x3b1)], 1,
      ["ALPHA;BETA;GAMMA;DELTA;EPSILON;ZETA;ETA;THETA;IOTA;KAPPA;LAMDA;MU;NU;XI;OMICRON;PI;RHO"]⟩,
    ⟨[("GREEK CAPITAL LETTER ", 0x3a3), ("GREEK SMALL LETTER ", 0x3c3)], 1,
      ["SIGMA;TAU;UPSILON;PHI;CHI;PSI;OMEGA;IOTA WITH DIALYTIKA;UPSILON WITH DIALYTIKA"]⟩,
    ⟨[("", 0x3b0)], 1, ["GREEK SMALL LETTER UPSILON WITH DIALYTIKA AND TONOS"]⟩,
    ⟨[("", 0x3c2)], 1, ["GREEK SMALL LETTER FINAL SIGMA"]⟩,
    ⟨[("GREEK ", 0x3cf)], 1,
      ["CAPITAL KAI SYMBOL;BETA SYMBOL;THETA SYMBOL;UPSILON WITH HOOK SYMBOL",
        "UPSILON WITH ACUTE AND HOOK SYMBOL;UPSILON WITH DIAERESIS AND HOOK SYMBOL;PHI SYMBOL;PI SYMBOL",
        "KAI SYMBOL;LETTER ARCHAIC KOPPA;SMALL LETTER ARCHAIC KOPPA;LETTER STIGMA;SMALL LETTER STIGMA",
        "LETTER DIGAMMA;SMALL LETTER DIGAMMA;LETTER KOPPA;SMALL LETTER KOPPA;LETTER SAMPI",
        "SMALL LETTER SAMPI"]⟩,
    ⟨[("COPTIC CAPITAL LETTER ", 0x3e2), ("COPTIC SMALL LETTER ", 0x3e3)], 2,
      ["SHEI;FEI;KHEI;HORI;GANGIA;SHIMA;DEI"]⟩,
    ⟨[("GREEK ", 0x3f0)], 1,
      ["KAPPA SYMBOL;RHO SYMBOL;LUNATE SIGMA SYMBOL;LETTER YOT;CAPITAL THETA SYMBOL;LUNATE EPSILON SYMBOL",
        "REVERSED LUNATE EPSILON SYMBOL"]⟩,
    ⟨[("GREEK CAPITAL LETTER ", 0x3f7), ("GREEK SMALL LETTER ", 0x3f8)], 1, ["SHO"]⟩,
    ⟨[("", 0x3f9)], 1, ["GREEK CAPITAL LUNATE SIGMA SYMBOL"]⟩,
    ⟨[("GREEK CAPITAL LETTER ", 0x3fa), ("GREEK SMALL LETTER ", 0x3fb)], 1, ["SAN"]⟩,
    ⟨[("", 0x3fc)], 1, ["GREEK RHO WITH STROKE SYMBOL"]⟩,
    ⟨[("GREEK CAPITAL ", 0x3fd), ("GREEK SMALL ", 0x37b)], 1,
      ["REVERSED LUNATE SIGMA SYMBOL;DOTTED LUNATE SIGMA SYMBOL;REVERSED DOTTED LUNATE SIGMA SYMBOL"]⟩,
    ⟨[("CYRILLIC CAPITAL LETTER ", 0x400), ("CYRILLIC SMALL LETTER ", 0x450)], 1,
      ["IE WITH GRAVE;IO;DJE;GJE;UKRAINIAN IE;DZE;BYELORUSSIAN-UKRAINIAN I;YI;JE;LJE;NJE;TSHE;KJE",
        "I WITH GRAVE;SHORT U;DZHE"]⟩,
    ⟨[("CYRILLIC CAPITAL LETTER ", 0x410), ("CYRILLIC SMALL LETTER ", 0x430)], 1,
      ["A;BE;VE;GHE;DE;IE;ZHE;ZE;I;SHORT I;KA;EL;EM;EN;O;PE;ER;ES;TE;U;EF;HA;TSE;CHE;SHA;SHCHA;HARD SIGN",
        "YERU;SOFT SIGN;E;YU;YA"]⟩,
    ⟨[("CYRILLIC CAPITAL LETTER ", 0x460), ("CYRILLIC SMALL LETTER ", 0x461)], 2,
      ["OMEGA;YAT;IOTIFIED E;LITTLE YUS;IOTIFIED LITTLE YUS;BIG YUS;IOTIFIED BIG YUS;KSI;PSI;FITA;IZHITSA",
        "IZHITSA WITH DOUBLE GRAVE ACCENT;UK;ROUND OMEGA;OMEGA WITH TITLO;OT;KOPPA"]⟩,
    ⟨[("", 0x482)], 1, ["CYRILLIC THOUSANDS SIGN"]⟩,
    ⟨[("COMBINING CYRILLIC ", 0x483)], 1,
      ["TITLO;PALATALIZATION;DASIA PNEUMATA;PSILI PNEUMATA;POKRYTIE;HUNDRED THOUSANDS SIGN;MILLIONS SIGN"]⟩,
    ⟨[("CYRILLIC CAPITAL LETTER ", 0x48a), ("CYRILLIC SMALL LETTER ", 0x48b)], 2,
      ["SHORT I WITH TAIL;SEMISOFT SIGN;ER WITH TICK;GHE WITH UPTURN;GHE WITH STROKE;GHE WITH MIDDLE HOOK",
        "ZHE WITH DESCENDER;ZE WITH DESCENDER;KA WITH DESCENDER;KA WITH VERTICAL STROKE;KA WITH STROKE",
        "BASHKIR KA;EN WITH DESCENDER"]⟩,
    ⟨[("CYRILLIC CAPITAL LIGATURE ", 0x4a4), ("CYRILLIC SMALL LIGATURE ", 0x4a5)], 1, ["EN GHE"]⟩,
    ⟨[("CYRILLIC CAPITAL LETTER ", 0x4a6), ("CYRILLIC SMALL LETTER ", 0x4a7)], 2,
      ["PE WITH MIDDLE HOOK;ABKHASIAN HA;ES WITH DESCENDER;TE WITH DESCENDER;STRAIGHT U",
        "STRAIGHT U WITH STROKE;HA WITH DESCENDER"]⟩,
    ⟨[("CYRILLIC CAPITAL LIGATURE ", 0x4b4), ("CYRILLIC SMALL LIGATURE ", 0x4b5)], 1, ["TE TSE"]⟩,
    ⟨[("CYRILLIC CAPITAL LETTER ", 0x4b6), ("CYRILLIC SMALL LETTER ", 0x4b7)], 2,
      ["CHE WITH DESCENDER;CHE WITH VERTICAL STROKE;SHHA;ABKHASIAN CHE;ABKHASIAN CHE WITH DESCENDER"]⟩,
    ⟨[("", 0x4c0)], 1, ["CYRILLIC LETTER PALOCHKA"]⟩,
    ⟨[("CYRILLIC CAPITAL LETTER ", 0x4c1), ("CYRILLIC SMALL LETTER ", 0x4c2)], 2,
      ["ZHE WITH BREVE;KA WITH HOOK;EL WITH TAIL;EN WITH HOOK;EN WITH TAIL;KHAKASSIAN CHE;EM WITH TAIL"]⟩,
    ⟨[("", 0x4cf)], 1, ["CYRILLIC SMALL LETTER PALOCHKA"]⟩,
    ⟨[("CYRILLIC CAPITAL LETTER ", 0x4d0), ("CYRILLIC SMALL LETTER ", 0x4d1)], 2,
      ["A WITH BREVE;A WITH DIAERESIS"]⟩,
    ⟨[("CYRILLIC CAPITAL LIGATURE ", 0x4d4), ("CYRILLIC SMALL LIGATURE ", 0x4d5)], 1, ["A IE"]⟩,
    ⟨[("CYRILLIC CAPITAL LETTER ", 0x4d6), ("CYRILLIC SMALL LETTER ", 0x4d7)], 2,
      ["IE WITH BREVE;SCHWA;SCHWA WITH DIAERESIS;ZHE WITH DIAERESIS;ZE WITH DIAERESIS;ABKHASIAN DZE",
        "I WITH MACRON;I WITH DIAERESIS;O WITH DIAERESIS;BARRED O;BARRED O WITH DIAERESIS;E WITH DIAERESIS",
        "U WITH MACRON;U WITH DIAERESIS;U WITH DOUBLE ACUTE;CHE WITH DIAERESIS;GHE WITH DESCENDER",
        "YERU WITH DIAERESIS;GHE WITH STROKE AND HOOK;HA WITH HOOK;HA WITH STROKE;KOMI DE;KOMI DJE",
        "KOMI ZJE;KOMI DZJE;KOMI LJE;KOMI NJE;KOMI SJE;KOMI TJE;REVERSED ZE;EL WITH HOOK;LHA;RHA;YAE;QA;WE",
        "ALEUT KA;EL WITH MIDDLE HOOK;EN WITH MIDDLE HOOK;PE WITH DESCENDER;SHHA WITH DESCENDER",
        "EN WITH LEFT HOOK;DZZHE;DCHE;EL WITH DESCENDER"]⟩,
    ⟨[("ARMENIAN CAPITAL LETTER ", 0x531), ("ARMENIAN SMALL LETTER ", 0x561)], 1,
      ["AYB;BEN;GIM;DA;ECH;ZA;EH;ET;TO;ZHE;INI;LIWN;XEH;CA;KEN;HO;JA;GHAD;CHEH;MEN;YI;NOW;SHA;VO;CHA;PEH",
        "JHEH;RA;SEH;VEW;TIWN;REH;CO;YIWN;PIWR;KEH;OH;FEH"]⟩,
    ⟨[("ARMENIAN ", 0x559)], 1,
      ["MODIFIER LETTER LEFT HALF RING;APOSTROPHE;EMPHASIS MARK;EXCLAMATION MARK;COMMA;QUESTION MARK",
        "ABBREVIATION MARK;SMALL LETTER TURNED AYB"]⟩,
    ⟨[("ARMENIAN ", 0x587)], 1, ["SMALL LIGATURE ECH YIWN;SMALL LETTER YI WITH STROKE;FULL STOP;HYPHEN"]⟩,
    ⟨[("", 0x58d)], 1,
      ["RIGHT-FACING ARMENIAN ETERNITY SIGN;LEFT-FACING ARMENIAN ETERNITY SIGN;ARMENIAN DRAM SIGN"]⟩,
    ⟨[("HEBREW ACCENT ", 0x591)], 1,
      ["ETNAHTA;SEGOL;SHALSHELET;ZAQEF QATAN;ZAQEF GADOL;TIPEHA;REVIA;ZARQA;PASHTA;YETIV;TEVIR;GERESH",
        "GERESH MUQDAM;GERSHAYIM;QARNEY PARA;TELISHA GEDOLA;PAZER;ATNAH HAFUKH;MUNAH;MAHAPAKH;MERKHA",
        "MERKHA KEFULA;DARGA;QADMA;TELISHA QETANA;YERAH BEN YOMO;OLE;ILUY;DEHI;ZINOR"]⟩,
    ⟨[("", 0x5af)], 1, ["HEBREW MARK MASORA CIRCLE"]⟩,
    ⟨[("HEBREW POINT ", 0x5b0)], 1,
      ["SHEVA;HATAF SEGOL;HATAF PATAH;HATAF QAMATS;HIRIQ;TSERE;SEGOL;PATAH;QAMATS;HOLAM",
        "HOLAM HASER FOR VAV;QUBUTS;DAGESH OR MAPIQ;METEG"]⟩,
    ⟨[("HEBREW ", 0x5be)], 1,
      ["PUNCTUATION MAQAF;POINT RAFE;PUNCTUATION PASEQ;POINT SHIN DOT;POINT SIN DOT;PUNCTUATION SOF PASUQ",
        "MARK UPPER DOT;MARK LOWER DOT;PUNCTUATION NUN HAFUKHA;POINT QAMATS QATAN"]⟩,
    ⟨[("HEBREW LETTER ", 0x5d0)], 1,
      ["ALEF;BET;GIMEL;DALET;HE;VAV;ZAYIN;HET;TET;YOD;FINAL KAF;KAF;LAMED;FINAL MEM;MEM;FINAL NUN;NUN",
        "SAMEKH;AYIN;FINAL PE;PE;FINAL TSADI;TSADI;QOF;RESH;SHIN;TAV"]⟩,
    ⟨[("HEBREW ", 0x5ef)], 1,
      ["YOD TRIANGLE;LIGATURE YIDDISH DOUBLE VAV;LIGATURE YIDDISH VAV YOD;LIGATURE YIDDISH DOUBLE YOD",
        "PUNCTUATION GERESH;PUNCTUATION GERSHAYIM"]⟩,
    ⟨[("ARABIC ", 0x600)], 1,
      ["NUMBER SIGN;SIGN SANAH;FOOTNOTE MARKER;SIGN SAFHA;SIGN SAMVAT;NUMBER MARK ABOVE"]⟩,
    ⟨[("", 0x606)], 1,
      ["ARABIC-INDIC CUBE ROOT;ARABIC-INDIC FOURTH ROOT;ARABIC RAY;ARABIC-INDIC PER MILLE SIGN",
        "ARABIC-INDIC PER TEN THOUSAND SIGN;AFGHANI SIGN"]⟩,
    ⟨[("ARABIC ", 0x60c)], 1,
      ["COMMA;DATE SEPARATOR;POETIC VERSE SIGN;SIGN MISRA;SIGN SALLALLAHOU ALAYHE WASSALLAM",
        "SIGN ALAYHE ASSALLAM;SIGN RAHMATULLAH ALAYHE;SIGN RADI ALLAHOU ANHU;SIGN TAKHALLUS;SMALL HIGH TAH",
        "SMALL HIGH LIGATURE ALEF WITH LAM WITH YEH;SMALL HIGH ZAIN;SMALL FATHA;SMALL DAMMA;SMALL KASRA",
        "SEMICOLON;LETTER MARK;END OF TEXT MARK;TRIPLE DOT PUNCTUATION MARK;QUESTION MARK"]⟩,
    ⟨[("ARABIC LETTER ", 0x620)], 1,
      ["KASHMIRI YEH;HAMZA;ALEF WITH MADDA ABOVE;ALEF WITH HAMZA ABOVE;WAW WITH HAMZA ABOVE",
        "ALEF WITH HAMZA BELOW;YEH WITH HAMZA ABOVE;ALEF;BEH;TEH MARBUTA;TEH;THEH;JEEM;HAH;KHAH;DAL;THAL",
        "REH;ZAIN;SEEN;SHEEN;SAD;DAD;TAH;ZAH;AIN;GHAIN;KEHEH WITH TWO DOTS ABOVE",
        "KEHEH WITH THREE DOTS BELOW;FARSI YEH WITH INVERTED V;FARSI YEH WITH TWO DOTS ABOVE",
        "FARSI YEH WITH THREE DOTS ABOVE"]⟩,
    ⟨[("", 0x640)], 1, ["ARABIC TATWEEL"]⟩,
    ⟨[("ARABIC LETTER ", 0x641)], 1, ["FEH;QAF;KAF;LAM;MEEM;NOON;HEH;WAW;ALEF MAKSURA;YEH"]⟩,
    ⟨[("ARABIC ", 0x64b)], 1,
      ["FATHATAN;DAMMATAN;KASRATAN;FATHA;DAMMA;KASRA;SHADDA;SUKUN;MADDAH ABOVE;HAMZA ABOVE;HAMZA BELOW",
        "SUBSCRIPT ALEF;INVERTED DAMMA;MARK NOON GHUNNA;ZWARAKAY;VOWEL SIGN SMALL V ABOVE",
        "VOWEL SIGN INVERTED SMALL V ABOVE;VOWEL SIGN DOT BELOW;REVERSED DAMMA;FATHA WITH TWO DOTS",
        "WAVY HAMZA BELOW"]⟩,
    ⟨[("ARABIC ", 0x66a)], 1, ["PERCENT SIGN;DECIMAL SEPARATOR;THOUSANDS SEPARATOR;FIVE POINTED STAR"]⟩,
    ⟨[("ARABIC LETTER ", 0x66e)], 1,
      ["DOTLESS BEH;DOTLESS QAF;SUPERSCRIPT ALEF;ALEF WASLA;ALEF WITH WAVY HAMZA ABOVE",
        "ALEF WITH WAVY HAMZA BELOW;HIGH HAMZA;HIGH HAMZA ALEF;HIGH HAMZA WAW;U WITH HAMZA ABOVE",
        "HIGH HAMZA YEH;TTEH;TTEHEH;BEEH;TEH WITH RING;TEH WITH THREE DOTS ABOVE DOWNWARDS;PEH;TEHEH;BEHEH",
        "HAH WITH HAMZA ABOVE;HAH WITH TWO DOTS VERTICAL ABOVE;NYEH;DYEH;HAH WITH THREE DOTS ABOVE;TCHEH",
        "TCHEHEH;DDAL;DAL WITH RING;DAL WITH DOT BELOW;DAL WITH DOT BELOW AND SMALL TAH;DAHAL;DDAHAL;DUL",
        "DAL WITH THREE DOTS ABOVE DOWNWARDS;DAL WITH FOUR DOTS ABOVE;RREH;REH WITH SMALL V;REH WITH RING",
        "REH WITH DOT BELOW;REH WITH SMALL V BELOW;REH WITH DOT BELOW AND DOT ABOVE",
        "REH WITH TWO DOTS ABOVE;JEH;REH WITH FOUR DOTS ABOVE;SEEN WITH DOT BELOW AND DOT ABOVE",
        "SEEN WITH THREE DOTS BELOW;SEEN WITH THREE DOTS BELOW AND THREE DOTS ABOVE",
        "SAD WITH TWO DOTS BELOW;SAD WITH THREE DOTS ABOVE;TAH WITH THREE DOTS ABOVE",
        "AIN WITH THREE DOTS ABOVE;DOTLESS FEH;FEH WITH DOT MOVED BELOW;FEH WITH DOT BELOW;VEH",
        "FEH WITH THREE DOTS BELOW;PEHEH;QAF WITH DOT ABOVE;QAF WITH THREE DOTS ABOVE;KEHEH;SWASH KAF",
        "KAF WITH RING;KAF WITH DOT ABOVE;NG;KAF WITH THREE DOTS BELOW;GAF;GAF WITH RING;NGOEH",
        "GAF WITH TWO DOTS BELOW;GUEH;GAF WITH THREE DOTS ABOVE;LAM WITH SMALL V;LAM WITH DOT ABOVE",
        "LAM WITH THREE DOTS ABOVE;LAM WITH THREE DOTS BELOW;NOON WITH DOT BELOW;NOON GHUNNA;RNOON",
        "NOON WITH RING;NOON WITH THREE DOTS ABOVE;HEH DOACHASHMEE;TCHEH WITH DOT ABOVE;HEH WITH YEH ABOVE",
        "HEH GOAL;HEH GOAL WITH HAMZA ABOVE;TEH MARBUTA GOAL;WAW WITH RING;KIRGHIZ OE;OE;U;YU;KIRGHIZ YU",
        "WAW WITH TWO DOTS ABOVE;VE;FARSI YEH;YEH WITH TAIL;YEH WITH SMALL V;WAW WITH DOT ABOVE;E",
        "YEH WITH THREE DOTS BELOW;YEH BARREE;YEH BARREE WITH HAMZA ABOVE"]⟩,
    ⟨[("ARABIC ", 0x6d4)], 1, ["FULL STOP;LETTER AE"]⟩,
    ⟨[("ARABIC SMALL HIGH ", 0x6d6)], 1,
      ["LIGATURE SAD WITH LAM WITH ALEF MAKSURA;LIGATURE QAF WITH LAM WITH ALEF MAKSURA;MEEM INITIAL FORM",
        "LAM ALEF;JEEM;THREE DOTS;SEEN"]⟩,
    ⟨[("ARABIC ", 0x6dd)], 1, ["END OF AYAH;START OF RUB EL HIZB"]⟩,
    ⟨[("ARABIC SMALL ", 0x6df)], 1,
      ["HIGH ROUNDED ZERO;HIGH UPRIGHT RECTANGULAR ZERO;HIGH DOTLESS HEAD OF KHAH;HIGH MEEM ISOLATED FORM",
        "LOW SEEN;HIGH MADDA;WAW;YEH;HIGH YEH;HIGH NOON"]⟩,
    ⟨[("ARABIC ", 0x6e9)], 1,
      ["PLACE OF SAJDAH;EMPTY CENTRE LOW STOP;EMPTY CENTRE HIGH STOP;ROUNDED HIGH STOP WITH FILLED CENTRE",
        "SMALL LOW MEEM;LETTER DAL WITH INVERTED V;LETTER REH WITH INVERTED V"]⟩,
    ⟨[("ARABIC ", 0x6fa)], 1,
      ["LETTER SHEEN WITH DOT BELOW;LETTER DAD WITH DOT BELOW;LETTER GHAIN WITH DOT BELOW",
        "SIGN SINDHI AMPERSAND;SIGN SINDHI POSTPOSITION MEN;LETTER HEH WITH INVERTED V"]⟩,
    ⟨[("DEVANAGARI SIGN ", 0x900)], 1, ["INVERTED CANDRABINDU;CANDRABINDU;ANUSVARA;VISARGA"]⟩,
    ⟨[("DEVANAGARI LETTER ", 0x904)], 1,
      ["SHORT A;A;AA;I;II;U;UU;VOCALIC R;VOCALIC L;CANDRA E;SHORT E;E;AI;CANDRA O;SHORT O;O;AU;KA;KHA;GA",
        "GHA;NGA;CA;CHA;JA;JHA;NYA;TTA;TTHA;DDA;DDHA;NNA;TA;THA;DA;DHA;NA;NNNA;PA;PHA;BA;BHA;MA;YA;RA;RRA",
        "LA;LLA;LLLA;VA;SHA;SSA;SA;HA"]⟩,
    ⟨[("DEVANAGARI ", 0x93a)], 1, ["VOWEL SIGN OE;VOWEL SIGN OOE;SIGN NUKTA;SIGN AVAGRAHA"]⟩,
    ⟨[("DEVANAGARI VOWEL SIGN ", 0x93e)], 1,
      ["AA;I;II;U;UU;VOCALIC R;VOCALIC RR;CANDRA E;SHORT E;E;AI;CANDRA O;SHORT O;O;AU"]⟩,
    ⟨[("DEVANAGARI ", 0x94d)], 1,
      ["SIGN VIRAMA;VOWEL SIGN PRISHTHAMATRA E;VOWEL SIGN AW;OM;STRESS SIGN UDATTA;STRESS SIGN ANUDATTA",
        "GRAVE ACCENT;ACUTE ACCENT;VOWEL SIGN CANDRA LONG E;VOWEL SIGN UE;VOWEL SIGN UUE"]⟩,
    ⟨[("DEVANAGARI LETTER ", 0x958)], 1, ["QA;KHHA;GHHA;ZA;DDDHA;RHA;FA;YYA;VOCALIC RR;VOCALIC LL"]⟩,
    ⟨[("DEVANAGARI ", 0x962)], 1, ["VOWEL SIGN VOCALIC L;VOWEL SIGN VOCALIC LL;DANDA;DOUBLE DANDA"]⟩,
    ⟨[("DEVANAGARI ", 0x970)], 1, ["ABBREVIATION SIGN;SIGN HIGH SPACING DOT"]⟩,
    ⟨[("DEVANAGARI LETTER ", 0x972)], 1,
      ["CANDRA A;OE;OOE;AW;UE;UUE;MARWARI DDA;ZHA;HEAVY YA;GGA;JJA;GLOTTAL STOP;DDDA;BBA"]⟩,
    ⟨[("THAI CHARACTER ", 0xe01)], 1,
      ["KO KAI;KHO KHAI;KHO KHUAT;KHO KHWAI;KHO KHON;KHO RAKHANG;NGO NGU;CHO CHAN;CHO CHING;CHO CHANG",
        "SO SO;CHO CHOE;YO YING;DO CHADA;TO PATAK;THO THAN;THO NANGMONTHO;THO PHUTHAO;NO NEN;DO DEK;TO TAO",
        "THO THUNG;THO THAHAN;THO THONG;NO NU;BO BAIMAI;PO PLA;PHO PHUNG;FO FA;PHO PHAN;FO FAN;PHO SAMPHAO",
        "MO MA;YO YAK;RO RUA;RU;LO LING;LU;WO WAEN;SO SALA;SO RUSI;SO SUA;HO HIP;LO CHULA;O ANG;HO NOKHUK",
        "PAIYANNOI;SARA A;MAI HAN-AKAT;SARA AA;SARA AM;SARA I;SARA II;SARA UE;SARA UEE;SARA U;SARA UU",
        "PHINTHU"]⟩,
    ⟨[("", 0xe3f)], 1, ["THAI CURRENCY SYMBOL BAHT"]⟩,
    ⟨[("THAI CHARACTER ", 0xe40)], 1,
      ["SARA E;SARA AE;SARA O;SARA AI MAIMUAN;SARA AI MAIMALAI;LAKKHANGYAO;MAIYAMOK;MAITAIKHU;MAI EK",
        "MAI THO;MAI TRI;MAI CHATTAWA;THANTHAKHAT;NIKHAHIT;YAMAKKAN;FONGMAN"]⟩,
    ⟨[("THAI CHARACTER ", 0xe5a)], 1, ["ANGKHANKHU;KHOMUT"]⟩,
    ⟨[("GEORGIAN CAPITAL LETTER ", 0x10a0), ("GEORGIAN SMALL LETTER ", 0x2d00)], 1,
      ["AN;BAN;GAN;DON;EN;VIN;ZEN;TAN;IN;KAN;LAS;MAN;NAR;ON;PAR;ZHAR;RAE;SAN;TAR;UN;PHAR;KHAR;GHAN;QAR",
        "SHIN;CHIN;CAN;JIL;CIL;CHAR;XAN;JHAN;HAE;HE;HIE;WE;HAR;HOE"]⟩,
    ⟨[("GEORGIAN CAPITAL LETTER ", 0x10c7), ("GEORGIAN SMALL LETTER ", 0x2d27)], 1, ["YN"]⟩,
    ⟨[("GEORGIAN CAPITAL LETTER ", 0x10cd), ("GEORGIAN SMALL LETTER ", 0x2d2d)], 1, ["AEN"]⟩,
    ⟨[("GEORGIAN LETTER ", 0x10d0), ("GEORGIAN MTAVRULI CAPITAL LETTER ", 0x1c90)], 1,
      ["AN;BAN;GAN;DON;EN;VIN;ZEN;TAN;IN;KAN;LAS;MAN;NAR;ON;PAR;ZHAR;RAE;SAN;TAR;UN;PHAR;KHAR;GHAN;QAR",
        "SHIN;CHIN;CAN;JIL;CIL;CHAR;XAN;JHAN;HAE;HE;HIE;WE;HAR;HOE;FI;YN;ELIFI;TURNED GAN;AIN"]⟩,
    ⟨[("", 0x10fb)], 1, ["GEORGIAN PARAGRAPH SEPARATOR;MODIFIER LETTER GEORGIAN NAR"]⟩,
    ⟨[("GEORGIAN LETTER ", 0x10fd), ("GEORGIAN MTAVRULI CAPITAL LETTER ", 0x1cbd)], 1,
      ["AEN;HARD SIGN;LABIAL SIGN"]⟩,
    ⟨[("CHEROKEE LETTER ", 0x13a0)], 1,
      ["A;E;I;O;U;V;GA;KA;GE;GI;GO;GU;GV;HA;HE;HI;HO;HU;HV;LA;LE;LI;LO;LU;LV;MA;ME;MI;MO;MU;NA;HNA;NAH;NE",
        "NI;NO;NU;NV;QUA;QUE;QUI;QUO;QUU;QUV;SA;S;SE;SI;SO;SU;SV;DA;TA;DE;TE;DI;TI;DO;DU;DV;DLA;TLA;TLE",
        "TLI;TLO;TLU;TLV;TSA;TSE;TSI;TSO;TSU;TSV;WA;WE;WI;WO;WU;WV;YA;YE;YI;YO;YU;YV;MV"]⟩,
    ⟨[("CHEROKEE SMALL LETTER ", 0x13f8)], 1, ["YE;YI;YO;YU;YV;MV"]⟩,
    ⟨[("CYRILLIC SMALL LETTER ", 0x1c80)], 1,
      ["ROUNDED VE;LONG-LEGGED DE;NARROW O;WIDE ES;TALL TE;THREE-LEGGED TE;TALL HARD SIGN;TALL YAT",
        "UNBLENDED UK"]⟩,
    ⟨[("LATIN ", 0x1d00)], 1, ["LETTER SMALL CAPITAL A;LETTER SMALL CAPITAL AE;SMALL LETTER TURNED AE"]⟩,
    ⟨[("LATIN LETTER SMALL CAPITAL ", 0x1d03)], 1, ["BARRED B;C;D;ETH;E"]⟩,
    ⟨[("LATIN SMALL LETTER TURNED ", 0x1d08)], 1, ["OPEN E;I"]⟩,
    ⟨[("LATIN LETTER SMALL CAPITAL ", 0x1d0a)], 1, ["J;K;L WITH STROKE;M;REVERSED N;O;OPEN O"]⟩,
    ⟨[("LATIN SMALL LETTER SIDEWAYS ", 0x1d11)], 1, ["O;OPEN O;O WITH STROKE"]⟩,
    ⟨[("LATIN ", 0x1d14)], 1,
      ["SMALL LETTER TURNED OE;LETTER SMALL CAPITAL OU;SMALL LETTER TOP HALF O;SMALL LETTER BOTTOM HALF O"]⟩,
    ⟨[("LATIN LETTER SMALL CAPITAL ", 0x1d18)], 1, ["P;REVERSED R;TURNED R;T;U"]⟩,
    ⟨[("LATIN SMALL LETTER SIDEWAYS ", 0x1d1d)], 1, ["U;DIAERESIZED U;TURNED M"]⟩,
    ⟨[("LATIN LETTER SMALL CAPITAL ", 0x1d20)], 1, ["V;W;Z;EZH"]⟩,
    ⟨[("LATIN LETTER ", 0x1d24)], 1, ["VOICED LARYNGEAL SPIRANT;AIN"]⟩,
    ⟨[("GREEK LETTER SMALL CAPITAL ", 0x1d26)], 1, ["GAMMA;LAMDA;PI;RHO;PSI"]⟩,
    ⟨[("", 0x1d2b)], 1, ["CYRILLIC LETTER SMALL CAPITAL EL"]⟩,
    ⟨[("MODIFIER LETTER CAPITAL ", 0x1d2c)], 1,
      ["A;AE;B;BARRED B;D;E;REVERSED E;G;H;I;J;K;L;M;N;REVERSED N;O;OU;P;R;T;U;W"]⟩,
    ⟨[("MODIFIER LETTER SMALL ", 0x1d43)], 1,
      ["A;TURNED A;ALPHA;TURNED AE;B;D;E;SCHWA;OPEN E;TURNED OPEN E;G;TURNED I;K;M;ENG;O;OPEN O",
        "TOP HALF O;BOTTOM HALF O;P;T;U;SIDEWAYS U;TURNED M;V;AIN;BETA;GREEK GAMMA;DELTA;GREEK PHI;CHI"]⟩,
    ⟨[("LATIN SUBSCRIPT SMALL LETTER ", 0x1d62)], 1, ["I;R;U;V"]⟩,
    ⟨[("GREEK SUBSCRIPT SMALL LETTER ", 0x1d66)], 1, ["BETA;GAMMA;RHO;PHI;CHI"]⟩,
    ⟨[("LATIN SMALL LETTER ", 0x1d6b)], 1,
      ["UE;B WITH MIDDLE TILDE;D WITH MIDDLE TILDE;F WITH MIDDLE TILDE;M WITH MIDDLE TILDE",
        "N WITH MIDDLE TILDE;P WITH MIDDLE TILDE;R WITH MIDDLE TILDE;R WITH FISHHOOK AND MIDDLE TILDE",
        "S WITH MIDDLE TILDE;T WITH MIDDLE TILDE;Z WITH MIDDLE TILDE;TURNED G"]⟩,
    ⟨[("", 0x1d78)], 1, ["MODIFIER LETTER CYRILLIC EN"]⟩,
    ⟨[("LATIN SMALL ", 0x1d7a)], 1,
      ["LETTER TH WITH STRIKETHROUGH;CAPITAL LETTER I WITH STROKE;LETTER IOTA WITH STROKE"]⟩,
    ⟨[("", 0x1d7e)], 1, ["LATIN SMALL CAPITAL LETTER U WITH STROKE"]⟩,
    ⟨[("LATIN SMALL LETTER ", 0x1d7f)], 1,
      ["UPSILON WITH STROKE;B WITH PALATAL HOOK;D WITH PALATAL HOOK;F WITH PALATAL HOOK",
        "G WITH PALATAL HOOK;K WITH PALATAL HOOK;L WITH PALATAL HOOK;M WITH PALATAL HOOK",
        "N WITH PALATAL HOOK;P WITH PALATAL HOOK;R WITH PALATAL HOOK;S WITH PALATAL HOOK",
        "ESH WITH PALATAL HOOK;V WITH PALATAL HOOK;X WITH PALATAL HOOK"]⟩,
    ⟨[("LATIN SMALL LETTER ", 0x1d8f)], 1,
      ["A WITH RETROFLEX HOOK;ALPHA WITH RETROFLEX HOOK;D WITH HOOK AND TAIL;E WITH RETROFLEX HOOK",
        "OPEN E WITH RETROFLEX HOOK;REVERSED OPEN E WITH RETROFLEX HOOK;SCHWA WITH RETROFLEX HOOK",
        "I WITH RETROFLEX HOOK;OPEN O WITH RETROFLEX HOOK;ESH WITH RETROFLEX HOOK;U WITH RETROFLEX HOOK",
        "EZH WITH RETROFLEX HOOK"]⟩,
    ⟨[("MODIFIER LETTER SMALL ", 0x1d9b)], 1,
      ["TURNED ALPHA;C;C WITH CURL;ETH;REVERSED OPEN E;F;DOTLESS J WITH STROKE;SCRIPT G;TURNED H",
        "I WITH STROKE;IOTA;CAPITAL I;CAPITAL I WITH STROKE;J WITH CROSSED-TAIL;L WITH RETROFLEX HOOK",
        "L WITH PALATAL HOOK;CAPITAL L;M WITH HOOK;TURNED M WITH LONG LEG;N WITH LEFT HOOK",
        "N WITH RETROFLEX HOOK;CAPITAL N;BARRED O;PHI;S WITH HOOK;ESH;T WITH PALATAL HOOK;U BAR;UPSILON",
        "CAPITAL U;V WITH HOOK;TURNED V;Z;Z WITH RETROFLEX HOOK;Z WITH CURL;EZH;THETA"]⟩,
    ⟨[("COMBINING ", 0x1dc0)], 1,
      ["DOTTED GRAVE ACCENT;DOTTED ACUTE ACCENT;SNAKE BELOW;SUSPENSION MARK;MACRON-ACUTE;GRAVE-MACRON",
        "MACRON-GRAVE;ACUTE-MACRON;GRAVE-ACUTE-GRAVE;ACUTE-GRAVE-ACUTE;LATIN SMALL LETTER R BELOW",
        "BREVE-MACRON;MACRON-BREVE;DOUBLE CIRCUMFLEX ABOVE;OGONEK ABOVE;ZIGZAG BELOW;IS BELOW;UR ABOVE",
        "US ABOVE"]⟩,
    ⟨[("COMBINING LATIN SMALL LETTER ", 0x1dd3)], 1,
      ["FLATTENED OPEN A ABOVE;AE;AO;AV;C CEDILLA;INSULAR D;ETH;G"]⟩,
    ⟨[("COMBINING LATIN ", 0x1ddb)], 1,
      ["LETTER SMALL CAPITAL G;SMALL LETTER K;SMALL LETTER L;LETTER SMALL CAPITAL L",
        "LETTER SMALL CAPITAL M;SMALL LETTER N;LETTER SMALL CAPITAL N;LETTER SMALL CAPITAL R"]⟩,
    ⟨[("COMBINING LATIN SMALL LETTER ", 0x1de3)], 1,
      ["R ROTUNDA;S;LONG S;Z;ALPHA;B;BETA;SCHWA;F;L WITH DOUBLE MIDDLE TILDE",
        "O WITH LIGHT CENTRALIZATION STROKE;P;ESH;U WITH LIGHT CENTRALIZATION STROKE;W;A WITH DIAERESIS",
        "O WITH DIAERESIS;U WITH DIAERESIS"]⟩,
    ⟨[("COMBINING ", 0x1df5)], 1,
      ["UP TACK ABOVE;KAVYKA ABOVE RIGHT;KAVYKA ABOVE LEFT;DOT ABOVE LEFT;WIDE INVERTED BRIDGE BELOW",
        "DOT BELOW LEFT;DELETION MARK;DOUBLE INVERTED BREVE BELOW;ALMOST EQUAL TO BELOW",
        "LEFT ARROWHEAD ABOVE;RIGHT ARROWHEAD AND DOWN ARROWHEAD BELOW"]⟩,
    ⟨[("LATIN CAPITAL LETTER ", 0x1e00), ("LATIN SMALL LETTER ", 0x1e01)], 2,
      ["A WITH RING BELOW;B WITH DOT ABOVE;B WITH DOT BELOW;B WITH LINE BELOW;C WITH CEDILLA AND ACUTE",
        "D WITH DOT ABOVE;D WITH DOT BELOW;D WITH LINE BELOW;D WITH CEDILLA;D WITH CIRCUMFLEX BELOW",
        "E WITH MACRON AND GRAVE;E WITH MACRON AND ACUTE;E WITH CIRCUMFLEX BELOW;E WITH TILDE BELOW",
        "E WITH CEDILLA AND BREVE;F WITH DOT ABOVE;G WITH MACRON;H WITH DOT ABOVE;H WITH DOT BELOW",
        "H WITH DIAERESIS;H WITH CEDILLA;H WITH BREVE BELOW;I WITH TILDE BELOW;I WITH DIAERESIS AND ACUTE",
        "K WITH ACUTE;K WITH DOT BELOW;K WITH LINE BELOW;L WITH DOT BELOW;L WITH DOT BELOW AND MACRON",
        "L WITH LINE BELOW;L WITH CIRCUMFLEX BELOW;M WITH ACUTE;M WITH DOT ABOVE;M WITH DOT BELOW",
        "N WITH DOT ABOVE;N WITH DOT BELOW;N WITH LINE BELOW;N WITH CIRCUMFLEX BELOW",
        "O WITH TILDE AND ACUTE;O WITH TILDE AND DIAERESIS;O WITH MACRON AND GRAVE;O WITH MACRON AND ACUTE",
        "P WITH ACUTE;P WITH DOT ABOVE;R WITH DOT ABOVE;R WITH DOT BELOW;R WITH DOT BELOW AND MACRON",
        "R WITH LINE BELOW;S WITH DOT ABOVE;S WITH DOT BELOW;S WITH ACUTE AND DOT ABOVE",
        "S WITH CARON AND DOT ABOVE;S WITH DOT BELOW AND DOT ABOVE;T WITH DOT ABOVE;T WITH DOT BELOW",
        "T WITH LINE BELOW;T WITH CIRCUMFLEX BELOW;U WITH DIAERESIS BELOW;U WITH TILDE BELOW",
        "U WITH CIRCUMFLEX BELOW;U WITH TILDE AND ACUTE;U WITH MACRON AND DIAERESIS;V WITH TILDE",
        "V WITH DOT BELOW;W WITH GRAVE;W WITH ACUTE;W WITH DIAERESIS;W WITH DOT ABOVE;W WITH DOT BELOW",
        "X WITH DOT ABOVE;X WITH DIAERESIS;Y WITH DOT ABOVE;Z WITH CIRCUMFLEX;Z WITH DOT BELOW",
        "Z WITH LINE BELOW"]⟩,
    ⟨[("LATIN SMALL LETTER ", 0x1e96)], 1,
      ["H WITH LINE BELOW;T WITH DIAERESIS;W WITH RING ABOVE;Y WITH RING ABOVE;A WITH RIGHT HALF RING",
        "LONG S WITH DOT ABOVE;LONG S WITH DIAGONAL STROKE;LONG S WITH HIGH STROKE"]⟩,
    ⟨[("LATIN CAPITAL LETTER ", 0x1e9e), ("LATIN SMALL LETTER ", 0xdf)], 1, ["SHARP S"]⟩,
    ⟨[("", 0x1e9f)], 1, ["LATIN SMALL LETTER DELTA"]⟩,
    ⟨[("LATIN CAPITAL LETTER ", 0x1ea0), ("LATIN SMALL LETTER ", 0x1ea1)], 2,
      ["A WITH DOT BELOW;A WITH HOOK ABOVE;A WITH CIRCUMFLEX AND ACUTE;A WITH CIRCUMFLEX AND GRAVE",
        "A WITH CIRCUMFLEX AND HOOK ABOVE;A WITH CIRCUMFLEX AND TILDE;A WITH CIRCUMFLEX AND DOT BELOW",
        "A WITH BREVE AND ACUTE;A WITH BREVE AND GRAVE;A WITH BREVE AND HOOK ABOVE;A WITH BREVE AND TILDE",
        "A WITH BREVE AND DOT BELOW;E WITH DOT BELOW;E WITH HOOK ABOVE;E WITH TILDE",
        "E WITH CIRCUMFLEX AND ACUTE;E WITH CIRCUMFLEX AND GRAVE;E WITH CIRCUMFLEX AND HOOK ABOVE",
        "E WITH CIRCUMFLEX AND TILDE;E WITH CIRCUMFLEX AND DOT BELOW;I WITH HOOK ABOVE;I WITH DOT BELOW",
        "O WITH DOT BELOW;O WITH HOOK ABOVE;O WITH CIRCUMFLEX AND ACUTE;O WITH CIRCUMFLEX AND GRAVE",
        "O WITH CIRCUMFLEX AND HOOK ABOVE;O WITH CIRCUMFLEX AND TILDE;O WITH CIRCUMFLEX AND DOT BELOW",
        "O WITH HORN AND ACUTE;O WITH HORN AND GRAVE;O WITH HORN AND HOOK ABOVE;O WITH HORN AND TILDE",
        "O WITH HORN AND DOT BELOW;U WITH DOT BELOW;U WITH HOOK ABOVE;U WITH HORN AND ACUTE",
        "U WITH HORN AND GRAVE;U WITH HORN AND HOOK ABOVE;U WITH HORN AND TILDE;U WITH HORN AND DOT BELOW",
        "Y WITH GRAVE;Y WITH DOT BELOW;Y WITH HOOK ABOVE;Y WITH TILDE;MIDDLE-WELSH LL;MIDDLE-WELSH V",
        "Y WITH LOOP"]⟩,
    ⟨[("GREEK CAPITAL LETTER ", 0x1f08), ("GREEK SMALL LETTER ", 0x1f00)], 1,
      ["ALPHA WITH PSILI;ALPHA WITH DASIA;ALPHA WITH PSILI AND VARIA;ALPHA WITH DASIA AND VARIA",
        "ALPHA WITH PSILI AND OXIA;ALPHA WITH DASIA AND OXIA;ALPHA WITH PSILI AND PERISPOMENI",
        "ALPHA WITH DASIA AND PERISPOMENI"]⟩,
    ⟨[("GREEK CAPITAL LETTER ", 0x1f18), ("GREEK SMALL LETTER ", 0x1f10)], 1,
      ["EPSILON WITH PSILI;EPSILON WITH DASIA;EPSILON WITH PSILI AND VARIA;EPSILON WITH DASIA AND VARIA",
        "EPSILON WITH PSILI AND OXIA;EPSILON WITH DASIA AND OXIA"]⟩,
    ⟨[("GREEK CAPITAL LETTER ", 0x1f28), ("GREEK SMALL LETTER ", 0x1f20)], 1,
      ["ETA WITH PSILI;ETA WITH DASIA;ETA WITH PSILI AND VARIA;ETA WITH DASIA AND VARIA",
        "ETA WITH PSILI AND OXIA;ETA WITH DASIA AND OXIA;ETA WITH PSILI AND PERISPOMENI",
        "ETA WITH DASIA AND PERISPOMENI"]⟩,
    ⟨[("GREEK CAPITAL LETTER ", 0x1f38), ("GREEK SMALL LETTER ", 0x1f30)], 1,
      ["IOTA WITH PSILI;IOTA WITH DASIA;IOTA WITH PSILI AND VARIA;IOTA WITH DASIA AND VARIA",
        "IOTA WITH PSILI AND OXIA;IOTA WITH DASIA AND OXIA;IOTA WITH PSILI AND PERISPOMENI",
        "IOTA WITH DASIA AND PERISPOMENI"]⟩,
    ⟨[("GREEK CAPITAL LETTER ", 0x1f48), ("GREEK SMALL LETTER ", 0x1f40)], 1,
      ["OMICRON WITH PSILI;OMICRON WITH DASIA;OMICRON WITH PSILI AND VARIA;OMICRON WITH DASIA AND VARIA",
        "OMICRON WITH PSILI AND OXIA;OMICRON WITH DASIA AND OXIA"]⟩,
    ⟨[("", 0x1f50)], 1, ["GREEK SMALL LETTER UPSILON WITH PSILI"]⟩,
    ⟨[("", 0x1f52)], 1, ["GREEK SMALL LETTER UPSILON WITH PSILI AND VARIA"]⟩,
    ⟨[("", 0x1f54)], 1, ["GREEK SMALL LETTER UPSILON WITH PSILI AND OXIA"]⟩,
    ⟨[("", 0x1f56)], 1, ["GREEK SMALL LETTER UPSILON WITH PSILI AND PERISPOMENI"]⟩,
    ⟨[("GREEK CAPITAL LETTER ", 0x1f59), ("GREEK SMALL LETTER ", 0x1f51)], 2,
      ["UPSILON WITH DASIA;UPSILON WITH DASIA AND VARIA;UPSILON WITH DASIA AND OXIA",
        "UPSILON WITH DASIA AND PERISPOMENI"]⟩,
    ⟨[("GREEK CAPITAL LETTER ", 0x1f68), ("GREEK SMALL LETTER ", 0x1f60)], 1,
      ["OMEGA WITH PSILI;OMEGA WITH DASIA;OMEGA WITH PSILI AND VARIA;OMEGA WITH DASIA AND VARIA",
        "OMEGA WITH PSILI AND OXIA;OMEGA WITH DASIA AND OXIA;OMEGA WITH PSILI AND PERISPOMENI",
        "OMEGA WITH DASIA AND PERISPOMENI"]⟩,
    ⟨[("GREEK SMALL LETTER ALPHA WITH ", 0x1f80), ("GREEK SMALL LETTER ETA WITH ", 0x1f90),
      ("GREEK SMALL LETTER OMEGA WITH ", 0x1fa0)], 1,
      ["PSILI AND YPOGEGRAMMENI;DASIA AND YPOGEGRAMMENI;PSILI AND VARIA AND YPOGEGRAMMENI",
        "DASIA AND VARIA AND YPOGEGRAMMENI;PSILI AND OXIA AND YPOGEGRAMMENI",
        "DASIA AND OXIA AND YPOGEGRAMMENI;PSILI AND PERISPOMENI AND YPOGEGRAMMENI",
        "DASIA AND PERISPOMENI AND YPOGEGRAMMENI"]⟩,
    ⟨[("GREEK CAPITAL LETTER ALPHA WITH ", 0x1f88), ("GREEK CAPITAL LETTER ETA WITH ", 0x1f98),
      ("GREEK CAPITAL LETTER OMEGA WITH ", 0x1fa8)], 1,
      ["PSILI AND PROSGEGRAMMENI;DASIA AND PROSGEGRAMMENI;PSILI AND VARIA AND PROSGEGRAMMENI",
        "DASIA AND VARIA AND PROSGEGRAMMENI;PSILI AND OXIA AND PROSGEGRAMMENI",
        "DASIA AND OXIA AND PROSGEGRAMMENI;PSILI AND PERISPOMENI AND PROSGEGRAMMENI",
        "DASIA AND PERISPOMENI AND PROSGEGRAMMENI"]⟩,
    ⟨[("GREEK SMALL LETTER ALPHA WITH ", 0x1fb2), ("GREEK SMALL LETTER ETA WITH ", 0x1fc2),
      ("GREEK SMALL LETTER OMEGA WITH ", 0x1ff2)], 1,
      ["VARIA AND YPOGEGRAMMENI;YPOGEGRAMMENI;OXIA AND YPOGEGRAMMENI"]⟩,
    ⟨[("GREEK SMALL LETTER ALPHA WITH ", 0x1fb6), ("GREEK SMALL LETTER ETA WITH ", 0x1fc6),
      ("GREEK SMALL LETTER OMEGA WITH ", 0x1ff6)], 1,
      ["PERISPOMENI;PERISPOMENI AND YPOGEGRAMMENI"]⟩,
    ⟨[("GREEK CAPITAL LETTER ", 0x1fb8), ("GREEK SMALL LETTER ", 0x1fb0)], 1,
      ["ALPHA WITH VRACHY;ALPHA WITH MACRON"]⟩,
    ⟨[("GREEK CAPITAL LETTER ", 0x1fba), ("GREEK SMALL LETTER ", 0x1f70)], 1,
      ["ALPHA WITH VARIA;ALPHA WITH OXIA"]⟩,
    ⟨[("GREEK ", 0x1fbc)], 1,
      ["CAPITAL LETTER ALPHA WITH PROSGEGRAMMENI;KORONIS;PROSGEGRAMMENI;PSILI;PERISPOMENI",
        "DIALYTIKA AND PERISPOMENI"]⟩,
    ⟨[("GREEK CAPITAL LETTER ", 0x1fc8), ("GREEK SMALL LETTER ", 0x1f72)], 1,
      ["EPSILON WITH VARIA;EPSILON WITH OXIA;ETA WITH VARIA;ETA WITH OXIA"]⟩,
    ⟨[("GREEK ", 0x1fcc)], 1,
      ["CAPITAL LETTER ETA WITH PROSGEGRAMMENI;PSILI AND VARIA;PSILI AND OXIA;PSILI AND PERISPOMENI"]⟩,
    ⟨[("GREEK SMALL LETTER IOTA WITH DIALYTIKA AND ", 0x1fd2)], 1, ["VARIA;OXIA"]⟩,
    ⟨[("GREEK SMALL LETTER IOTA WITH ", 0x1fd6), ("GREEK SMALL LETTER UPSILON WITH ", 0x1fe6)], 1,
      ["PERISPOMENI;DIALYTIKA AND PERISPOMENI"]⟩,
    ⟨[("GREEK CAPITAL LETTER ", 0x1fd8), ("GREEK SMALL LETTER ", 0x1fd0)], 1,
      ["IOTA WITH VRACHY;IOTA WITH MACRON"]⟩,
    ⟨[("GREEK CAPITAL LETTER ", 0x1fda), ("GREEK SMALL LETTER ", 0x1f76)], 1,
      ["IOTA WITH VARIA;IOTA WITH OXIA"]⟩,
    ⟨[("GREEK DASIA AND ", 0x1fdd)], 1, ["VARIA;OXIA;PERISPOMENI"]⟩,
    ⟨[("GREEK SMALL LETTER ", 0x1fe2)], 1,
      ["UPSILON WITH DIALYTIKA AND VARIA;UPSILON WITH DIALYTIKA AND OXIA;RHO WITH PSILI"]⟩,
    ⟨[("GREEK CAPITAL LETTER ", 0x1fe8), ("GREEK SMALL LETTER ", 0x1fe0)], 1,
      ["UPSILON WITH VRACHY;UPSILON WITH MACRON"]⟩,
    ⟨[("GREEK CAPITAL LETTER ", 0x1fea), ("GREEK SMALL LETTER ", 0x1f7a)], 1,
      ["UPSILON WITH VARIA;UPSILON WITH OXIA"]⟩,
    ⟨[("GREEK CAPITAL LETTER ", 0x1fec), ("GREEK SMALL LETTER ", 0x1fe5)], 1, ["RHO WITH DASIA"]⟩,
    ⟨[("GREEK ", 0x1fed)], 1, ["DIALYTIKA AND VARIA;DIALYTIKA AND OXIA;VARIA"]⟩,
    ⟨[("GREEK CAPITAL LETTER ", 0x1ff8), ("GREEK SMALL LETTER ", 0x1f78)], 1,
      ["OMICRON WITH VARIA;OMICRON WITH OXIA"]⟩,
    ⟨[("GREEK CAPITAL LETTER ", 0x1ffa), ("GREEK SMALL LETTER ", 0x1f7c)], 1,
      ["OMEGA WITH VARIA;OMEGA WITH OXIA"]⟩,
    ⟨[("GREEK ", 0x1ffc)], 1, ["CAPITAL LETTER OMEGA WITH PROSGEGRAMMENI;OXIA;DASIA"]⟩,
    ⟨[("GLAGOLITIC CAPITAL LETTER ", 0x2c00), ("GLAGOLITIC SMALL LETTER ", 0x2c30)], 1,
      ["AZU;BUKY;VEDE;GLAGOLI;DOBRO;YESTU;ZHIVETE;DZELO;ZEMLJA;IZHE;INITIAL IZHE;I;DJERVI;KAKO;LJUDIJE",
        "MYSLITE;NASHI;ONU;POKOJI;RITSI;SLOVO;TVRIDO;UKU;FRITU;HERU;OTU;PE;SHTA;TSI;CHRIVI;SHA;YERU;YERI",
        "YATI;SPIDERY HA;YU;SMALL YUS;SMALL YUS WITH TAIL;YO;IOTATED SMALL YUS;BIG YUS;IOTATED BIG YUS",
        "FITA;IZHITSA;SHTAPIC;TROKUTASTI A;LATINATE MYSLITE;CAUDATE CHRIVI"]⟩,
    ⟨[("LATIN CAPITAL LETTER ", 0x2c60), ("LATIN SMALL LETTER ", 0x2c61)], 1, ["L WITH DOUBLE BAR"]⟩,
    ⟨[("LATIN CAPITAL LETTER ", 0x2c62), ("LATIN SMALL LETTER ", 0x26b)], 1, ["L WITH MIDDLE TILDE"]⟩,
    ⟨[("LATIN CAPITAL LETTER ", 0x2c63), ("LATIN SMALL LETTER ", 0x1d7d)], 1, ["P WITH STROKE"]⟩,
    ⟨[("LATIN CAPITAL LETTER ", 0x2c64), ("LATIN SMALL LETTER ", 0x27d)], 1, ["R WITH TAIL"]⟩,
    ⟨[("LATIN CAPITAL LETTER ", 0x2c67), ("LATIN SMALL LETTER ", 0x2c68)], 2,
      ["H WITH DESCENDER;K WITH DESCENDER;Z WITH DESCENDER"]⟩,
    ⟨[("LATIN CAPITAL LETTER ", 0x2c6d), ("LATIN SMALL LETTER ", 0x251)], 1, ["ALPHA"]⟩,
    ⟨[("LATIN CAPITAL LETTER ", 0x2c6e), ("LATIN SMALL LETTER ", 0x271)], 1, ["M WITH HOOK"]⟩,
    ⟨[("LATIN CAPITAL LETTER ", 0x2c6f), ("LATIN SMALL LETTER ", 0x250)], 1, ["TURNED A"]⟩,
    ⟨[("LATIN CAPITAL LETTER ", 0x2c70), ("LATIN SMALL LETTER ", 0x252)], 1, ["TURNED ALPHA"]⟩,
    ⟨[("", 0x2c71)], 1, ["LATIN SMALL LETTER V WITH RIGHT HOOK"]⟩,
    ⟨[("LATIN CAPITAL LETTER ", 0x2c72), ("LATIN SMALL LETTER ", 0x2c73)], 1, ["W WITH HOOK"]⟩,
    ⟨[("", 0x2c74)], 1, ["LATIN SMALL LETTER V WITH CURL"]⟩,
    ⟨[("LATIN CAPITAL LETTER ", 0x2c75), ("LATIN SMALL LETTER ", 0x2c76)], 1, ["HALF H"]⟩,
    ⟨[("LATIN SMALL LETTER ", 0x2c77)], 1,
      ["TAILLESS PHI;E WITH NOTCH;TURNED R WITH TAIL;O WITH LOW RING INSIDE"]⟩,
    ⟨[("", 0x2c7b)], 1,
      ["LATIN LETTER SMALL CAPITAL TURNED E;LATIN SUBSCRIPT SMALL LETTER J;MODIFIER LETTER CAPITAL V"]⟩,
    ⟨[("LATIN CAPITAL LETTER ", 0x2c7e), ("LATIN SMALL LETTER ", 0x23f)], 1,
      ["S WITH SWASH TAIL;Z WITH SWASH TAIL"]⟩,
    ⟨[("COPTIC CAPITAL LETTER ", 0x2c80), ("COPTIC SMALL LETTER ", 0x2c81)], 2,
      ["ALFA;VIDA;GAMMA;DALDA;EIE;SOU;ZATA;HATE;THETHE;IAUDA;KAPA;LAULA;MI;NI;KSI;O;PI;RO;SIMA;TAU;UA;FI",
        "KHI;PSI;OOU;DIALECT-P ALEF;OLD COPTIC AIN;CRYPTOGRAMMIC EIE;DIALECT-P KAPA;DIALECT-P NI",
        "CRYPTOGRAMMIC NI;OLD COPTIC OOU;SAMPI;CROSSED SHEI;OLD COPTIC SHEI;OLD COPTIC ESH;AKHMIMIC KHEI",
        "DIALECT-P HORI;OLD COPTIC HORI;OLD COPTIC HA;L-SHAPED HA;OLD COPTIC HEI;OLD COPTIC HAT",
        "OLD COPTIC GANGIA;OLD COPTIC DJA;OLD COPTIC SHIMA;OLD NUBIAN SHIMA;OLD NUBIAN NGI;OLD NUBIAN NYI",
        "OLD NUBIAN WAU"]⟩,
    ⟨[("COPTIC SYMBOL ", 0x2ce4)], 1, ["KAI;MI RO;PI RO;STAUROS;TAU RO;KHI RO;SHIMA SIMA"]⟩,
    ⟨[("COPTIC CAPITAL LETTER ", 0x2ceb), ("COPTIC SMALL LETTER ", 0x2cec)], 2,
      ["CRYPTOGRAMMIC SHEI;CRYPTOGRAMMIC GANGIA"]⟩,
    ⟨[("COPTIC COMBINING ", 0x2cef)], 1, ["NI ABOVE;SPIRITUS ASPER;SPIRITUS LENIS"]⟩,
    ⟨[("COPTIC CAPITAL LETTER ", 0x2cf2), ("COPTIC SMALL LETTER ", 0x2cf3)], 1, ["BOHAIRIC KHEI"]⟩,
    ⟨[("COPTIC OLD NUBIAN ", 0x2cf9)], 1,
      ["FULL STOP;DIRECT QUESTION MARK;INDIRECT QUESTION MARK;VERSE DIVIDER"]⟩,
    ⟨[("COPTIC ", 0x2cfd)], 1, ["FRACTION ONE HALF;FULL STOP;MORPHOLOGICAL DIVIDER"]⟩,
    ⟨[("CYRILLIC CAPITAL LETTER ", 0xa640), ("CYRILLIC SMALL LETTER ", 0xa641)], 2,
      ["ZEMLYA;DZELO;REVERSED DZE;IOTA;DJERV;MONOGRAPH UK;BROAD OMEGA;NEUTRAL YER;YERU WITH BACK YER",
        "IOTIFIED YAT;REVERSED YU;IOTIFIED A;CLOSED LITTLE YUS;BLENDED YUS;IOTIFIED CLOSED LITTLE YUS;YN",
        "REVERSED TSE;SOFT DE;SOFT EL;SOFT EM;MONOCULAR O;BINOCULAR O;DOUBLE MONOCULAR O"]⟩,
    ⟨[("", 0xa66e)], 1, ["CYRILLIC LETTER MULTIOCULAR O"]⟩,
    ⟨[("COMBINING CYRILLIC ", 0xa66f)], 1,
      ["VZMET;TEN MILLIONS SIGN;HUNDRED MILLIONS SIGN;THOUSAND MILLIONS SIGN"]⟩,
    ⟨[("", 0xa673)], 1, ["SLAVONIC ASTERISK"]⟩,
    ⟨[("COMBINING CYRILLIC LETTER ", 0xa674)], 1, ["UKRAINIAN IE;I;YI;U;HARD SIGN;YERU;SOFT SIGN;OMEGA"]⟩,
    ⟨[("COMBINING CYRILLIC ", 0xa67c), ("CYRILLIC ", 0xa67e)], 1, ["KAVYKA;PAYEROK"]⟩,
    ⟨[("CYRILLIC CAPITAL LETTER ", 0xa680), ("CYRILLIC SMALL LETTER ", 0xa681)], 2,
      ["DWE;DZWE;ZHWE;CCHE;DZZE;TE WITH MIDDLE HOOK;TWE;TSWE;TSSE;TCHE;HWE;SHWE;DOUBLE O;CROSSED O"]⟩,
    ⟨[("MODIFIER LETTER CYRILLIC ", 0xa69c)], 1, ["HARD SIGN;SOFT SIGN"]⟩,
    ⟨[("COMBINING CYRILLIC LETTER ", 0xa69e)], 1, ["EF;IOTIFIED E"]⟩,
    ⟨[("MODIFIER LETTER STRESS AND ", 0xa720)], 1, ["HIGH TONE;LOW TONE"]⟩,
    ⟨[("LATIN CAPITAL LETTER ", 0xa722), ("LATIN SMALL LETTER ", 0xa723)], 2,
      ["EGYPTOLOGICAL ALEF;EGYPTOLOGICAL AIN;HENG;TZ;TRESILLO;CUATRILLO;CUATRILLO WITH COMMA"]⟩,
    ⟨[("LATIN LETTER SMALL CAPITAL ", 0xa730)], 1, ["F;S"]⟩,
    ⟨[("LATIN CAPITAL LETTER ", 0xa732), ("LATIN SMALL LETTER ", 0xa733)], 2,
      ["AA;AO;AU;AV;AV WITH HORIZONTAL BAR;AY;REVERSED C WITH DOT;K WITH STROKE;K WITH DIAGONAL STROKE",
        "K WITH STROKE AND DIAGONAL STROKE;BROKEN L;L WITH HIGH STROKE;O WITH LONG STROKE OVERLAY",
        "O WITH LOOP;OO;P WITH STROKE THROUGH DESCENDER;P WITH FLOURISH;P WITH SQUIRREL TAIL",
        "Q WITH STROKE THROUGH DESCENDER;Q WITH DIAGONAL STROKE;R ROTUNDA;RUM ROTUNDA",
        "V WITH DIAGONAL STROKE;VY;VISIGOTHIC Z;THORN WITH STROKE;THORN WITH STROKE THROUGH DESCENDER;VEND",
        "ET;IS;CON"]⟩,
    ⟨[("", 0xa770)], 1, ["MODIFIER LETTER US"]⟩,
    ⟨[("LATIN SMALL LETTER ", 0xa771)], 1, ["DUM;LUM;MUM;NUM;RUM"]⟩,
    ⟨[("LATIN ", 0xa776)], 1, ["LETTER SMALL CAPITAL RUM;SMALL LETTER TUM;SMALL LETTER UM"]⟩,
    ⟨[("LATIN CAPITAL LETTER ", 0xa779), ("LATIN SMALL LETTER ", 0xa77a)], 2, ["INSULAR D;INSULAR F"]⟩,
    ⟨[("LATIN CAPITAL LETTER ", 0xa77d), ("LATIN SMALL LETTER ", 0x1d79)], 1, ["INSULAR G"]⟩,
    ⟨[("LATIN CAPITAL LETTER ", 0xa77e), ("LATIN SMALL LETTER ", 0xa77f)], 2,
      ["TURNED INSULAR G;TURNED L;INSULAR R;INSULAR S;INSULAR T"]⟩,
    ⟨[("MODIFIER LETTER ", 0xa788)], 1, ["LOW CIRCUMFLEX ACCENT;COLON;SHORT EQUALS SIGN"]⟩,
    ⟨[("LATIN CAPITAL LETTER ", 0xa78b), ("LATIN SMALL LETTER ", 0xa78c)], 1, ["SALTILLO"]⟩,
    ⟨[("LATIN CAPITAL LETTER ", 0xa78d), ("LATIN SMALL LETTER ", 0x265)], 1, ["TURNED H"]⟩,
    ⟨[("LATIN ", 0xa78e)], 1, ["SMALL LETTER L WITH RETROFLEX HOOK AND BELT;LETTER SINOLOGICAL DOT"]⟩,
    ⟨[("LATIN CAPITAL LETTER ", 0xa790), ("LATIN SMALL LETTER ", 0xa791)], 2,
      ["N WITH DESCENDER;C WITH BAR"]⟩,
    ⟨[("", 0xa795)], 1, ["LATIN SMALL LETTER H WITH PALATAL HOOK"]⟩,
    ⟨[("LATIN CAPITAL LETTER ", 0xa796), ("LATIN SMALL LETTER ", 0xa797)], 2,
      ["B WITH FLOURISH;F WITH STROKE;VOLAPUK AE;VOLAPUK OE;VOLAPUK UE;G WITH OBLIQUE STROKE",
        "K WITH OBLIQUE STROKE;N WITH OBLIQUE STROKE;R WITH OBLIQUE STROKE;S WITH OBLIQUE STROKE"]⟩,
    ⟨[("LATIN CAPITAL LETTER ", 0xa7aa), ("LATIN SMALL LETTER ", 0x266)], 1, ["H WITH HOOK"]⟩,
    ⟨[("LATIN CAPITAL LETTER ", 0xa7ab), ("LATIN SMALL LETTER ", 0x25c)], 1, ["REVERSED OPEN E"]⟩,
    ⟨[("LATIN CAPITAL LETTER ", 0xa7ac), ("LATIN SMALL LETTER ", 0x261)], 1, ["SCRIPT G"]⟩,
    ⟨[("LATIN CAPITAL LETTER ", 0xa7ad), ("LATIN SMALL LETTER ", 0x26c)], 1, ["L WITH BELT"]⟩,
    ⟨[("LATIN ", 0xa7ae)], 1, ["CAPITAL LETTER SMALL CAPITAL I;LETTER SMALL CAPITAL Q"]⟩,
    ⟨[("LATIN CAPITAL LETTER ", 0xa7b0), ("LATIN SMALL LETTER ", 0x29e)], 1, ["TURNED K"]⟩,
    ⟨[("LATIN CAPITAL LETTER ", 0xa7b1), ("LATIN SMALL LETTER ", 0x287)], 1, ["TURNED T"]⟩,
    ⟨[("LATIN CAPITAL LETTER ", 0xa7b2), ("LATIN SMALL LETTER ", 0x29d)], 1, ["J WITH CROSSED-TAIL"]⟩,
    ⟨[("", 0xa7b3)], 1, ["LATIN CAPITAL LETTER CHI"]⟩,
    ⟨[("LATIN CAPITAL LETTER ", 0xa7b4), ("LATIN SMALL LETTER ", 0xa7b5)], 2,
      ["BETA;OMEGA;U WITH STROKE;GLOTTAL A;GLOTTAL I;GLOTTAL U;OLD POLISH O;ANGLICANA W"]⟩,
    ⟨[("LATIN CAPITAL LETTER ", 0xa7c4), ("LATIN SMALL LETTER ", 0xa794)], 1, ["C WITH PALATAL HOOK"]⟩,
    ⟨[("LATIN CAPITAL LETTER ", 0xa7c5), ("LATIN SMALL LETTER ", 0x282)], 1, ["S WITH HOOK"]⟩,
    ⟨[("LATIN CAPITAL LETTER ", 0xa7c6), ("LATIN SMALL LETTER ", 0x1d8e)], 1, ["Z WITH PALATAL HOOK"]⟩,
    ⟨[("LATIN CAPITAL LETTER ", 0xa7c7), ("LATIN SMALL LETTER ", 0xa7c8)], 2,
      ["D WITH SHORT STROKE OVERLAY;S WITH SHORT STROKE OVERLAY"]⟩,
    ⟨[("LATIN CAPITAL LETTER ", 0xa7d0), ("LATIN SMALL LETTER ", 0xa7d1)], 1, ["CLOSED INSULAR G"]⟩,
    ⟨[("", 0xa7d3)], 1, ["LATIN SMALL LETTER DOUBLE THORN"]⟩,
    ⟨[("", 0xa7d5)], 1, ["LATIN SMALL LETTER DOUBLE WYNN"]⟩,
    ⟨[("LATIN CAPITAL LETTER ", 0xa7d6), ("LATIN SMALL LETTER ", 0xa7d7)], 2, ["MIDDLE SCOTS S;SIGMOID S"]⟩,
    ⟨[("MODIFIER LETTER CAPITAL ", 0xa7f2)], 1, ["C;F;Q"]⟩,
    ⟨[("LATIN CAPITAL LETTER ", 0xa7f5), ("LATIN SMALL LETTER ", 0xa7f6)], 1, ["REVERSED HALF H"]⟩,
    ⟨[("", 0xa7f7)], 1,
      ["LATIN EPIGRAPHIC LETTER SIDEWAYS I;MODIFIER LETTER CAPITAL H WITH STROKE",
        "MODIFIER LETTER SMALL LIGATURE OE;LATIN LETTER SMALL CAPITAL TURNED M"]⟩,
    ⟨[("LATIN EPIGRAPHIC LETTER ", 0xa7fb)], 1, ["REVERSED F;REVERSED P;INVERTED M;I LONGA;ARCHAIC M"]⟩,
    ⟨[("CHEROKEE SMALL LETTER ", 0xab70)], 1,
      ["A;E;I;O;U;V;GA;KA;GE;GI;GO;GU;GV;HA;HE;HI;HO;HU;HV;LA;LE;LI;LO;LU;LV;MA;ME;MI;MO;MU;NA;HNA;NAH;NE",
        "NI;NO;NU;NV;QUA;QUE;QUI;QUO;QUU;QUV;SA;S;SE;SI;SO;SU;SV;DA;TA;DE;TE;DI;TI;DO;DU;DV;DLA;TLA;TLE",
        "TLI;TLO;TLU;TLV;TSA;TSE;TSI;TSO;TSU;TSV;WA;WE;WI;WO;WU;WV;YA"]⟩,
    ⟨[("LATIN SMALL LIGATURE ", 0xfb00)], 1, ["FF;FI;FL;FFI;FFL;LONG S T;ST"]⟩,
    ⟨[("ARMENIAN SMALL LIGATURE ", 0xfb13)], 1, ["MEN NOW;MEN ECH;MEN INI;VEW NOW;MEN XEH"]⟩,
    ⟨[("HEBREW ", 0xfb1d)], 1,
      ["LETTER YOD WITH HIRIQ;POINT JUDEO-SPANISH VARIKA;LIGATURE YIDDISH YOD YOD PATAH"]⟩,
    ⟨[("HEBREW LETTER ", 0xfb20)], 1,
      ["ALTERNATIVE AYIN;WIDE ALEF;WIDE DALET;WIDE HE;WIDE KAF;WIDE LAMED;WIDE FINAL MEM;WIDE RESH",
        "WIDE TAV;ALTERNATIVE PLUS SIGN;SHIN WITH SHIN DOT;SHIN WITH SIN DOT;SHIN WITH DAGESH AND SHIN DOT",
        "SHIN WITH DAGESH AND SIN DOT;ALEF WITH PATAH;ALEF WITH QAMATS;ALEF WITH MAPIQ;BET WITH DAGESH",
        "GIMEL WITH DAGESH;DALET WITH DAGESH;HE WITH MAPIQ;VAV WITH DAGESH;ZAYIN WITH DAGESH"]⟩,
    ⟨[("HEBREW LETTER ", 0xfb38)], 1,
      ["TET WITH DAGESH;YOD WITH DAGESH;FINAL KAF WITH DAGESH;KAF WITH DAGESH;LAMED WITH DAGESH"]⟩,
    ⟨[("", 0xfb3e)], 1, ["HEBREW LETTER MEM WITH DAGESH"]⟩,
    ⟨[("HEBREW LETTER ", 0xfb40)], 1, ["NUN WITH DAGESH;SAMEKH WITH DAGESH"]⟩,
    ⟨[("HEBREW LETTER ", 0xfb43)], 1, ["FINAL PE WITH DAGESH;PE WITH DAGESH"]⟩,
    ⟨[("HEBREW LETTER ", 0xfb46)], 1,
      ["TSADI WITH DAGESH;QOF WITH DAGESH;RESH WITH DAGESH;SHIN WITH DAGESH;TAV WITH DAGESH",
        "VAV WITH HOLAM;BET WITH RAFE;KAF WITH RAFE;PE WITH RAFE"]⟩,
    ⟨[("", 0xfb4f)], 1, ["HEBREW LIGATURE ALEF LAMED"]⟩,
    ⟨[("FULLWIDTH ", 0xff01)], 1,
      ["EXCLAMATION MARK;QUOTATION MARK;NUMBER SIGN;DOLLAR SIGN;PERCENT SIGN;AMPERSAND;APOSTROPHE",
        "LEFT PARENTHESIS;RIGHT PARENTHESIS;ASTERISK;PLUS SIGN;COMMA;HYPHEN-MINUS;FULL STOP;SOLIDUS"]⟩,
    ⟨[("FULLWIDTH ", 0xff5b)], 1,
      ["LEFT CURLY BRACKET;VERTICAL LINE;RIGHT CURLY BRACKET;TILDE;LEFT WHITE PARENTHESIS",
        "RIGHT WHITE PARENTHESIS"]⟩,
    ⟨[("HALFWIDTH ", 0xff61)], 1,
      ["IDEOGRAPHIC FULL STOP;LEFT CORNER BRACKET;RIGHT CORNER BRACKET;IDEOGRAPHIC COMMA",
        "KATAKANA MIDDLE DOT;KATAKANA LETTER WO"]⟩,
    ⟨[("HALFWIDTH KATAKANA LETTER SMALL ", 0xff67)], 1, ["A;I;U;E;O;YA;YU;YO;TU"]⟩,
    ⟨[("", 0xff70)], 1, ["HALFWIDTH KATAKANA-HIRAGANA PROLONGED SOUND MARK"]⟩,
    ⟨[("HALFWIDTH KATAKANA LETTER ", 0xff71)], 1,
      ["A;I;U;E;O;KA;KI;KU;KE;KO;SA;SI;SU;SE;SO;TA;TI;TU;TE;TO;NA;NI;NU;NE;NO;HA;HI;HU;HE;HO;MA;MI;MU;ME",
        "MO;YA;YU;YO;RA;RI;RU;RE;RO;WA;N"]⟩,
    ⟨[("HALFWIDTH ", 0xff9e)], 1,
      ["KATAKANA VOICED SOUND MARK;KATAKANA SEMI-VOICED SOUND MARK;HANGUL FILLER"]⟩,
    ⟨[("HALFWIDTH HANGUL LETTER ", 0xffa1)], 1,
      ["KIYEOK;SSANGKIYEOK;KIYEOK-SIOS;NIEUN;NIEUN-CIEUC;NIEUN-HIEUH;TIKEUT;SSANGTIKEUT;RIEUL",
        "RIEUL-KIYEOK;RIEUL-MIEUM;RIEUL-PIEUP;RIEUL-SIOS;RIEUL-THIEUTH;RIEUL-PHIEUPH;RIEUL-HIEUH;MIEUM",
        "PIEUP;SSANGPIEUP;PIEUP-SIOS;SIOS;SSANGSIOS;IEUNG;CIEUC;SSANGCIEUC;CHIEUCH;KHIEUKH;THIEUTH;PHIEUPH",
        "HIEUH"]⟩,
    ⟨[("HALFWIDTH HANGUL LETTER ", 0xffc2)], 1, ["A;AE;YA;YAE;EO;E"]⟩,
    ⟨[("HALFWIDTH HANGUL LETTER ", 0xffca)], 1, ["YEO;YE;O;WA;WAE;OE"]⟩,
    ⟨[("HALFWIDTH HANGUL LETTER ", 0xffd2)], 1, ["YO;U;WEO;WE;WI;YU"]⟩,
    ⟨[("HALFWIDTH HANGUL LETTER ", 0xffda)], 1, ["EU;YI;I"]⟩,
    ⟨[("FULLWIDTH ", 0xffe0)], 1, ["CENT SIGN;POUND SIGN;NOT SIGN;MACRON;BROKEN BAR;YEN SIGN;WON SIGN"]⟩,
    ⟨[("HALFWIDTH ", 0xffe8)], 1,
      ["FORMS LIGHT VERTICAL;LEFTWARDS ARROW;UPWARDS ARROW;RIGHTWARDS ARROW;DOWNWARDS ARROW;BLACK SQUARE",
        "WHITE CIRCLE"]⟩,
    ⟨[("INTERLINEAR ANNOTATION ", 0xfff9)], 1, ["ANCHOR;SEPARATOR;TERMINATOR"]⟩,
    ⟨[("", 0xfffc)], 1, ["OBJECT REPLACEMENT CHARACTER;REPLACEMENT CHARACTER"]⟩,
    ⟨[("DESERET CAPITAL LETTER ", 0x10400), ("DESERET SMALL LETTER ", 0x10428)], 1,
      ["LONG I;LONG E;LONG A;LONG AH;LONG O;LONG OO;SHORT I;SHORT E;SHORT A;SHORT AH;SHORT O;SHORT OO;AY",
        "OW;WU;YEE;H;PEE;BEE;TEE;DEE;CHEE;JEE;KAY;GAY;EF;VEE;ETH;THEE;ES;ZEE;ESH;ZHEE;ER;EL;EM;EN;ENG;OI;EW"]⟩,
    ⟨[("SHAVIAN LETTER ", 0x10450)], 1,
      ["PEEP;TOT;KICK;FEE;THIGH;SO;SURE;CHURCH;YEA;HUNG;BIB;DEAD;GAG;VOW;THEY;ZOO;MEASURE;JUDGE;WOE;HA-HA",
        "LOLL;MIME;IF;EGG;ASH;ADO;ON;WOOL;OUT;AH;ROAR;NUN;EAT;AGE;ICE;UP;OAK;OOZE;OIL;AWE;ARE;OR;AIR;ERR",
        "ARRAY;EAR;IAN;YEW"]⟩,
    ⟨[("OSMANYA LETTER ", 0x10480)], 1,
      ["ALEF;BA;TA;JA;XA;KHA;DEEL;RA;SA;SHIIN;DHA;CAYN;GA;FA;QAAF;KAAF;LAAN;MIIN;NUUN;WAW;HA;YA;A;E;I;O;U",
        "AA;EE;OO"]⟩,
    ⟨[("OSAGE CAPITAL LETTER ", 0x104b0), ("OSAGE SMALL LETTER ", 0x104d8)], 1,
      ["A;AI;AIN;AH;BRA;CHA;EHCHA;E;EIN;HA;HYA;I;KA;EHKA;KYA;LA;MA;NA;O;OIN;PA;EHPA;SA;SHA;TA;EHTA;TSA",
        "EHTSA;TSHA;DHA;U;WA;KHA;GHA;ZA;ZHA"]⟩,
    ⟨[("VITHKUQI CAPITAL LETTER ", 0x10570), ("VITHKUQI SMALL LETTER ", 0x10597)], 1,
      ["A;BBE;BE;CE;CHE;DE;DHE;EI;E;FE;GA"]⟩,
    ⟨[("VITHKUQI CAPITAL LETTER ", 0x1057c), ("VITHKUQI SMALL LETTER ", 0x105a3)], 1,
      ["HA;HHA;I;IJE;JE;KA;LA;LLA;ME;NE;NJE;O;PE;QA;RE"]⟩,
    ⟨[("VITHKUQI CAPITAL LETTER ", 0x1058c), ("VITHKUQI SMALL LETTER ", 0x105b3)], 1,
      ["SE;SHE;TE;THE;U;VE;XE"]⟩,
    ⟨[("VITHKUQI CAPITAL LETTER ", 0x10594), ("VITHKUQI SMALL LETTER ", 0x105bb)], 1, ["Y;ZE"]⟩,
    ⟨[("OLD HUNGARIAN CAPITAL LETTER ", 0x10c80), ("OLD HUNGARIAN SMALL LETTER ", 0x10cc0)], 1,
      ["A;AA;EB;AMB;EC;ENC;ECS;ED;AND;E;CLOSE E;EE;EF;EG;EGY;EH;I;II;EJ;EK;AK;UNK;EL;ELY;EM;EN;ENY;O;OO",
        "NIKOLSBURG OE;RUDIMENTA OE;OEE;EP;EMP;ER;SHORT ER;ES;ESZ;ET;ENT;ETY;ECH;U;UU;NIKOLSBURG UE",
        "RUDIMENTA UE;EV;EZ;EZS;ENT-SHAPED SIGN;US"]⟩,
    ⟨[("OLD HUNGARIAN NUMBER ", 0x10cfa)], 1, ["ONE;FIVE;TEN;FIFTY;ONE HUNDRED;ONE THOUSAND"]⟩,
    ⟨[("WARANG CITI CAPITAL LETTER ", 0x118a0), ("WARANG CITI SMALL LETTER ", 0x118c0)], 1,
      ["NGAA;A;WI;YU;YA;YO;II;UU;E;O;ANG;GA;KO;ENY;YUJ;UC;ENN;ODD;TTE;NUNG;DA;AT;AM;BU;PU;HIYO;HOLO;HORR",
        "HAR;SSUU;SII;VIYO"]⟩,
    ⟨[("WARANG CITI NUMBER ", 0x118ea)], 1, ["TEN;TWENTY;THIRTY;FORTY;FIFTY;SIXTY;SEVENTY;EIGHTY;NINETY"]⟩,
    ⟨[("", 0x118ff)], 1, ["WARANG CITI OM"]⟩,
    ⟨[("MEDEFAIDRIN CAPITAL LETTER ", 0x16e40), ("MEDEFAIDRIN SMALL LETTER ", 0x16e60)], 1,
      ["M;S;V;W;ATIU;Z;KP;P;T;G;F;I;K;A;J;E;B;C;U;YU;L;Q;HP;NY;X;D;OE;N;R;O;AI;Y"]⟩,
    ⟨[("MEDEFAIDRIN NUMBER ", 0x16e8a)], 1,
      ["TEN;ELEVEN;TWELVE;THIRTEEN;FOURTEEN;FIFTEEN;SIXTEEN;SEVENTEEN;EIGHTEEN;NINETEEN"]⟩,
    ⟨[("MEDEFAIDRIN ", 0x16e94)], 1,
      ["DIGIT ONE ALTERNATE FORM;DIGIT TWO ALTERNATE FORM;DIGIT THREE ALTERNATE FORM;COMMA;FULL STOP",
        "SYMBOL AIVA;EXCLAMATION OH"]⟩,
    ⟨[("MATHEMATICAL ITALIC SMALL ", 0x1d44e)], 1, ["A;B;C;D;E;F;G"]⟩,
    ⟨[("MATHEMATICAL ITALIC SMALL ", 0x1d456)], 1, ["I;J;K;L;M;N;O;P;Q;R;S;T;U;V;W;X;Y;Z"]⟩,
    ⟨[("", 0x1d49c)], 1, ["MATHEMATICAL SCRIPT CAPITAL A"]⟩,
    ⟨[("MATHEMATICAL SCRIPT CAPITAL ", 0x1d49e)], 1, ["C;D"]⟩,
    ⟨[("", 0x1d4a2)], 1, ["MATHEMATICAL SCRIPT CAPITAL G"]⟩,
    ⟨[("MATHEMATICAL SCRIPT CAPITAL ", 0x1d4a5)], 1, ["J;K"]⟩,
    ⟨[("MATHEMATICAL SCRIPT CAPITAL ", 0x1d4a9)], 1, ["N;O;P;Q"]⟩,
    ⟨[("MATHEMATICAL SCRIPT CAPITAL ", 0x1d4ae)], 1, ["S;T;U;V;W;X;Y;Z"]⟩,
    ⟨[("MATHEMATICAL SCRIPT SMALL ", 0x1d4b6)], 1, ["A;B;C;D"]⟩,
    ⟨[("", 0x1d4bb)], 1, ["MATHEMATICAL SCRIPT SMALL F"]⟩,
    ⟨[("MATHEMATICAL SCRIPT SMALL ", 0x1d4bd)], 1, ["H;I;J;K;L;M;N"]⟩,
    ⟨[("MATHEMATICAL SCRIPT SMALL ", 0x1d4c5)], 1, ["P;Q;R;S;T;U;V;W;X;Y;Z"]⟩,
    ⟨[("MATHEMATICAL FRAKTUR CAPITAL ", 0x1d504), ("MATHEMATICAL DOUBLE-STRUCK CAPITAL ", 0x1d538)], 1,
      ["A;B"]⟩,
    ⟨[("MATHEMATICAL FRAKTUR CAPITAL ", 0x1d507), ("MATHEMATICAL DOUBLE-STRUCK CAPITAL ", 0x1d53b)], 1,
      ["D;E;F;G"]⟩,
    ⟨[("MATHEMATICAL FRAKTUR CAPITAL ", 0x1d50d)], 1, ["J;K;L;M;N;O;P;Q"]⟩,
    ⟨[("MATHEMATICAL FRAKTUR CAPITAL ", 0x1d516), ("MATHEMATICAL DOUBLE-STRUCK CAPITAL ", 0x1d54a)], 1,
      ["S;T;U;V;W;X;Y"]⟩,
    ⟨[("MATHEMATICAL DOUBLE-STRUCK CAPITAL ", 0x1d540)], 1, ["I;J;K;L;M"]⟩,
    ⟨[("", 0x1d546)], 1, ["MATHEMATICAL DOUBLE-STRUCK CAPITAL O"]⟩,
    ⟨[("MATHEMATICAL ITALIC SMALL DOTLESS ", 0x1d6a4)], 1, ["I;J"]⟩,
    ⟨[("MATHEMATICAL BOLD CAPITAL ", 0x1d6a8), ("MATHEMATICAL ITALIC CAPITAL ", 0x1d6e2),
      ("MATHEMATICAL BOLD ITALIC CAPITAL ", 0x1d71c), ("MATHEMATICAL SANS-SERIF BOLD CAPITAL ", 0x1d756),
      ("MATHEMATICAL SANS-SERIF BOLD ITALIC CAPITAL ", 0x1d790)], 1,
      ["ALPHA;BETA;GAMMA;DELTA;EPSILON;ZETA;ETA;THETA;IOTA;KAPPA;LAMDA;MU;NU;XI;OMICRON;PI;RHO",
        "THETA SYMBOL;SIGMA;TAU;UPSILON;PHI;CHI;PSI;OMEGA"]⟩,
    ⟨[("", 0x1d6c1)], 1, ["MATHEMATICAL BOLD NABLA"]⟩,
    ⟨[("MATHEMATICAL BOLD SMALL ", 0x1d6c2), ("MATHEMATICAL ITALIC SMALL ", 0x1d6fc),
      ("MATHEMATICAL BOLD ITALIC SMALL ", 0x1d736), ("MATHEMATICAL SANS-SERIF BOLD SMALL ", 0x1d770),
      ("MATHEMATICAL SANS-SERIF BOLD ITALIC SMALL ", 0x1d7aa)], 1,
      ["ALPHA;BETA;GAMMA;DELTA;EPSILON;ZETA;ETA;THETA;IOTA;KAPPA;LAMDA;MU;NU;XI;OMICRON;PI;RHO",
        "FINAL SIGMA;SIGMA;TAU;UPSILON;PHI;CHI;PSI;OMEGA"]⟩,
    ⟨[("MATHEMATICAL BOLD ", 0x1d6db), ("MATHEMATICAL ITALIC ", 0x1d715),
      ("MATHEMATICAL BOLD ITALIC ", 0x1d74f), ("MATHEMATICAL SANS-SERIF BOLD ", 0x1d789),
      ("MATHEMATICAL SANS-SERIF BOLD ITALIC ", 0x1d7c3)], 1,
      ["PARTIAL DIFFERENTIAL;EPSILON SYMBOL;THETA SYMBOL;KAPPA SYMBOL;PHI SYMBOL;RHO SYMBOL;PI SYMBOL"]⟩,
    ⟨[("", 0x1d6fb)], 1, ["MATHEMATICAL ITALIC NABLA"]⟩,
    ⟨[("", 0x1d735)], 1, ["MATHEMATICAL BOLD ITALIC NABLA"]⟩,
    ⟨[("", 0x1d76f)], 1, ["MATHEMATICAL SANS-SERIF BOLD NABLA"]⟩,
    ⟨[("", 0x1d7a9)], 1, ["MATHEMATICAL SANS-SERIF BOLD ITALIC NABLA"]⟩,
    ⟨[("MATHEMATICAL BOLD ", 0x1d7ca)], 1, ["CAPITAL DIGAMMA;SMALL DIGAMMA"]⟩,
    ⟨[("ADLAM CAPITAL LETTER ", 0x1e900), ("ADLAM SMALL LETTER ", 0x1e922)], 1,
      ["ALIF;DAALI;LAAM;MIIM;BA;SINNYIIYHE;PE;BHE;RA;E;FA;I;O;DHA;YHE;WAW;NUN;KAF;YA;U;JIIM;CHI;HA;QAAF",
        "GA;NYA;TU;NHA;VA;KHA;GBE;ZAL;KPO;SHA"]⟩,
    ⟨[("ADLAM ", 0x1e944)], 1,
      ["ALIF LENGTHENER;VOWEL LENGTHENER;GEMINATION MARK;HAMZA;CONSONANT MODIFIER",
        "GEMINATE CONSONANT MODIFIER;NUKTA;NASALIZATION MARK"]⟩,
    ⟨[("ADLAM INITIAL ", 0x1e95e)], 1, ["EXCLAMATION MARK;QUESTION MARK"]⟩]

end Conformance.Text
