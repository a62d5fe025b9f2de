/-!
# Names of characters

Characters by their standard names. The table holds the characters of the European scripts,
punctuation, currency signs, arrows, common symbols and the short names of control characters; the
names of ideographs and of Hangul syllables are made by rule.
-/

set_option autoImplicit false

namespace DeviceTrust.Text

/-- Names of characters that follow each other, separated by semicolons, after the number of the
first of them. -/
def characterNames : List (Nat × String) := [
  (0x20,
    "SPACE;EXCLAMATION MARK;QUOTATION MARK;NUMBER SIGN;DOLLAR SIGN;PERCENT SIGN;AMPERSAND;"
    ++ "APOSTROPHE;LEFT PARENTHESIS;RIGHT PARENTHESIS;ASTERISK;PLUS SIGN;COMMA;HYPHEN-MINUS;"
    ++ "FULL STOP;SOLIDUS;DIGIT ZERO;DIGIT ONE;DIGIT TWO;DIGIT THREE;DIGIT FOUR;DIGIT FIVE;"
    ++ "DIGIT SIX;DIGIT SEVEN;DIGIT EIGHT;DIGIT NINE;COLON;SEMICOLON;LESS-THAN SIGN;EQUALS SIGN;"
    ++ "GREATER-THAN SIGN;QUESTION MARK;COMMERCIAL AT;LATIN CAPITAL LETTER A;"
    ++ "LATIN CAPITAL LETTER B;LATIN CAPITAL LETTER C;LATIN CAPITAL LETTER D;"
    ++ "LATIN CAPITAL LETTER E;LATIN CAPITAL LETTER F;LATIN CAPITAL LETTER G;"
    ++ "LATIN CAPITAL LETTER H;LATIN CAPITAL LETTER I;LATIN CAPITAL LETTER J;"
    ++ "LATIN CAPITAL LETTER K;LATIN CAPITAL LETTER L;LATIN CAPITAL LETTER M;"
    ++ "LATIN CAPITAL LETTER N;LATIN CAPITAL LETTER O;LATIN CAPITAL LETTER P;"
    ++ "LATIN CAPITAL LETTER Q;LATIN CAPITAL LETTER R;LATIN CAPITAL LETTER S;"
    ++ "LATIN CAPITAL LETTER T;LATIN CAPITAL LETTER U;LATIN CAPITAL LETTER V;"
    ++ "LATIN CAPITAL LETTER W;LATIN CAPITAL LETTER X;LATIN CAPITAL LETTER Y;"
    ++ "LATIN CAPITAL LETTER Z;LEFT SQUARE BRACKET;REVERSE SOLIDUS;RIGHT SQUARE BRACKET;"
    ++ "CIRCUMFLEX ACCENT;LOW LINE;GRAVE ACCENT;LATIN SMALL LETTER A;LATIN SMALL LETTER B;"
    ++ "LATIN SMALL LETTER C;LATIN SMALL LETTER D;LATIN SMALL LETTER E;LATIN SMALL LETTER F;"
    ++ "LATIN SMALL LETTER G;LATIN SMALL LETTER H;LATIN SMALL LETTER I;LATIN SMALL LETTER J;"
    ++ "LATIN SMALL LETTER K;LATIN SMALL LETTER L;LATIN SMALL LETTER M;LATIN SMALL LETTER N;"
    ++ "LATIN SMALL LETTER O;LATIN SMALL LETTER P;LATIN SMALL LETTER Q;LATIN SMALL LETTER R;"
    ++ "LATIN SMALL LETTER S;LATIN SMALL LETTER T;LATIN SMALL LETTER U;LATIN SMALL LETTER V;"
    ++ "LATIN SMALL LETTER W;LATIN SMALL LETTER X;LATIN SMALL LETTER Y;LATIN SMALL LETTER Z;"
    ++ "LEFT CURLY BRACKET;VERTICAL LINE;RIGHT CURLY BRACKET;TILDE"),
  (0xa0,
    "NO-BREAK SPACE;INVERTED EXCLAMATION MARK;CENT SIGN;POUND SIGN;CURRENCY SIGN;YEN SIGN;"
    ++ "BROKEN BAR;SECTION SIGN;DIAERESIS;COPYRIGHT SIGN;FEMININE ORDINAL INDICATOR;"
    ++ "LEFT-POINTING DOUBLE ANGLE QUOTATION MARK;NOT SIGN"),
  (0xae,
    "REGISTERED SIGN;MACRON;DEGREE SIGN;PLUS-MINUS SIGN;SUPERSCRIPT TWO;SUPERSCRIPT THREE;"
    ++ "ACUTE ACCENT;MICRO SIGN;PILCROW SIGN;MIDDLE DOT;CEDILLA;SUPERSCRIPT ONE;"
    ++ "MASCULINE ORDINAL INDICATOR;RIGHT-POINTING DOUBLE ANGLE QUOTATION MARK;"
    ++ "VULGAR FRACTION ONE QUARTER;VULGAR FRACTION ONE HALF;VULGAR FRACTION THREE QUARTERS;"
    ++ "INVERTED QUESTION MARK;LATIN CAPITAL LETTER A WITH GRAVE;"
    ++ "LATIN CAPITAL LETTER A WITH ACUTE;LATIN CAPITAL LETTER A WITH CIRCUMFLEX;"
    ++ "LATIN CAPITAL LETTER A WITH TILDE;LATIN CAPITAL LETTER A WITH DIAERESIS;"
    ++ "LATIN CAPITAL LETTER A WITH RING ABOVE;LATIN CAPITAL LETTER AE;"
    ++ "LATIN CAPITAL LETTER C WITH CEDILLA;LATIN CAPITAL LETTER E WITH GRAVE;"
    ++ "LATIN CAPITAL LETTER E WITH ACUTE;LATIN CAPITAL LETTER E WITH CIRCUMFLEX;"
    ++ "LATIN CAPITAL LETTER E WITH DIAERESIS;LATIN CAPITAL LETTER I WITH GRAVE;"
    ++ "LATIN CAPITAL LETTER I WITH ACUTE;LATIN CAPITAL LETTER I WITH CIRCUMFLEX;"
    ++ "LATIN CAPITAL LETTER I WITH DIAERESIS;LATIN CAPITAL LETTER ETH;"
    ++ "LATIN CAPITAL LETTER N WITH TILDE;LATIN CAPITAL LETTER O WITH GRAVE;"
    ++ "LATIN CAPITAL LETTER O WITH ACUTE;LATIN CAPITAL LETTER O WITH CIRCUMFLEX;"
    ++ "LATIN CAPITAL LETTER O WITH TILDE;LATIN CAPITAL LETTER O WITH DIAERESIS;"
    ++ "MULTIPLICATION SIGN;LATIN CAPITAL LETTER O WITH STROKE;"
    ++ "LATIN CAPITAL LETTER U WITH GRAVE;LATIN CAPITAL LETTER U WITH ACUTE;"
    ++ "LATIN CAPITAL LETTER U WITH CIRCUMFLEX;LATIN CAPITAL LETTER U WITH DIAERESIS;"
    ++ "LATIN CAPITAL LETTER Y WITH ACUTE;LATIN CAPITAL LETTER THORN;LATIN SMALL LETTER SHARP S;"
    ++ "LATIN SMALL LETTER A WITH GRAVE;LATIN SMALL LETTER A WITH ACUTE;"
    ++ "LATIN SMALL LETTER A WITH CIRCUMFLEX;LATIN SMALL LETTER A WITH TILDE;"
    ++ "LATIN SMALL LETTER A WITH DIAERESIS;LATIN SMALL LETTER A WITH RING ABOVE;"
    ++ "LATIN SMALL LETTER AE;LATIN SMALL LETTER C WITH CEDILLA;LATIN SMALL LETTER E WITH GRAVE;"
    ++ "LATIN SMALL LETTER E WITH ACUTE;LATIN SMALL LETTER E WITH CIRCUMFLEX;"
    ++ "LATIN SMALL LETTER E WITH DIAERESIS;LATIN SMALL LETTER I WITH GRAVE;"
    ++ "LATIN SMALL LETTER I WITH ACUTE;LATIN SMALL LETTER I WITH CIRCUMFLEX;"
    ++ "LATIN SMALL LETTER I WITH DIAERESIS;LATIN SMALL LETTER ETH;"
    ++ "LATIN SMALL LETTER N WITH TILDE;LATIN SMALL LETTER O WITH GRAVE;"
    ++ "LATIN SMALL LETTER O WITH ACUTE;LATIN SMALL LETTER O WITH CIRCUMFLEX;"
    ++ "LATIN SMALL LETTER O WITH TILDE;LATIN SMALL LETTER O WITH DIAERESIS;DIVISION SIGN;"
    ++ "LATIN SMALL LETTER O WITH STROKE;LATIN SMALL LETTER U WITH GRAVE;"
    ++ "LATIN SMALL LETTER U WITH ACUTE;LATIN SMALL LETTER U WITH CIRCUMFLEX;"
    ++ "LATIN SMALL LETTER U WITH DIAERESIS;LATIN SMALL LETTER Y WITH ACUTE;"
    ++ "LATIN SMALL LETTER THORN;LATIN SMALL LETTER Y WITH DIAERESIS;"
    ++ "LATIN CAPITAL LETTER A WITH MACRON;LATIN SMALL LETTER A WITH MACRON;"
    ++ "LATIN CAPITAL LETTER A WITH BREVE;LATIN SMALL LETTER A WITH BREVE;"
    ++ "LATIN CAPITAL LETTER A WITH OGONEK;LATIN SMALL LETTER A WITH OGONEK;"
    ++ "LATIN CAPITAL LETTER C WITH ACUTE;LATIN SMALL LETTER C WITH ACUTE;"
    ++ "LATIN CAPITAL LETTER C WITH CIRCUMFLEX;LATIN SMALL LETTER C WITH CIRCUMFLEX;"
    ++ "LATIN CAPITAL LETTER C WITH DOT ABOVE;LATIN SMALL LETTER C WITH DOT ABOVE;"
    ++ "LATIN CAPITAL LETTER C WITH CARON;LATIN SMALL LETTER C WITH CARON;"
    ++ "LATIN CAPITAL LETTER D WITH CARON;LATIN SMALL LETTER D WITH CARON;"
    ++ "LATIN CAPITAL LETTER D WITH STROKE;LATIN SMALL LETTER D WITH STROKE;"
    ++ "LATIN CAPITAL LETTER E WITH MACRON;LATIN SMALL LETTER E WITH MACRON;"
    ++ "LATIN CAPITAL LETTER E WITH BREVE;LATIN SMALL LETTER E WITH BREVE;"
    ++ "LATIN CAPITAL LETTER E WITH DOT ABOVE;LATIN SMALL LETTER E WITH DOT ABOVE;"
    ++ "LATIN CAPITAL LETTER E WITH OGONEK;LATIN SMALL LETTER E WITH OGONEK;"
    ++ "LATIN CAPITAL LETTER E WITH CARON;LATIN SMALL LETTER E WITH CARON;"
    ++ "LATIN CAPITAL LETTER G WITH CIRCUMFLEX;LATIN SMALL LETTER G WITH CIRCUMFLEX;"
    ++ "LATIN CAPITAL LETTER G WITH BREVE;LATIN SMALL LETTER G WITH BREVE;"
    ++ "LATIN CAPITAL LETTER G WITH DOT ABOVE;LATIN SMALL LETTER G WITH DOT ABOVE;"
    ++ "LATIN CAPITAL LETTER G WITH CEDILLA;LATIN SMALL LETTER G WITH CEDILLA;"
    ++ "LATIN CAPITAL LETTER H WITH CIRCUMFLEX;LATIN SMALL LETTER H WITH CIRCUMFLEX;"
    ++ "LATIN CAPITAL LETTER H WITH STROKE;LATIN SMALL LETTER H WITH STROKE;"
    ++ "LATIN CAPITAL LETTER I WITH TILDE;LATIN SMALL LETTER I WITH TILDE;"
    ++ "LATIN CAPITAL LETTER I WITH MACRON;LATIN SMALL LETTER I WITH MACRON;"
    ++ "LATIN CAPITAL LETTER I WITH BREVE;LATIN SMALL LETTER I WITH BREVE;"
    ++ "LATIN CAPITAL LETTER I WITH OGONEK;LATIN SMALL LETTER I WITH OGONEK;"
    ++ "LATIN CAPITAL LETTER I WITH DOT ABOVE;LATIN SMALL LETTER DOTLESS I;"
    ++ "LATIN CAPITAL LIGATURE IJ;LATIN SMALL LIGATURE IJ;"
    ++ "LATIN CAPITAL LETTER J WITH CIRCUMFLEX;LATIN SMALL LETTER J WITH CIRCUMFLEX;"
    ++ "LATIN CAPITAL LETTER K WITH CEDILLA;LATIN SMALL LETTER K WITH CEDILLA;"
    ++ "LATIN SMALL LETTER KRA;LATIN CAPITAL LETTER L WITH ACUTE;"
    ++ "LATIN SMALL LETTER L WITH ACUTE;LATIN CAPITAL LETTER L WITH CEDILLA;"
    ++ "LATIN SMALL LETTER L WITH CEDILLA;LATIN CAPITAL LETTER L WITH CARON;"
    ++ "LATIN SMALL LETTER L WITH CARON;LATIN CAPITAL LETTER L WITH MIDDLE DOT;"
    ++ "LATIN SMALL LETTER L WITH MIDDLE DOT;LATIN CAPITAL LETTER L WITH STROKE;"
    ++ "LATIN SMALL LETTER L WITH STROKE;LATIN CAPITAL LETTER N WITH ACUTE;"
    ++ "LATIN SMALL LETTER N WITH ACUTE;LATIN CAPITAL LETTER N WITH CEDILLA;"
    ++ "LATIN SMALL LETTER N WITH CEDILLA;LATIN CAPITAL LETTER N WITH CARON;"
    ++ "LATIN SMALL LETTER N WITH CARON;LATIN SMALL LETTER N PRECEDED BY APOSTROPHE;"
    ++ "LATIN CAPITAL LETTER ENG;LATIN SMALL LETTER ENG;LATIN CAPITAL LETTER O WITH MACRON;"
    ++ "LATIN SMALL LETTER O WITH MACRON;LATIN CAPITAL LETTER O WITH BREVE;"
    ++ "LATIN SMALL LETTER O WITH BREVE;LATIN CAPITAL LETTER O WITH DOUBLE ACUTE;"
    ++ "LATIN SMALL LETTER O WITH DOUBLE ACUTE;LATIN CAPITAL LIGATURE OE;"
    ++ "LATIN SMALL LIGATURE OE;LATIN CAPITAL LETTER R WITH ACUTE;"
    ++ "LATIN SMALL LETTER R WITH ACUTE;LATIN CAPITAL LETTER R WITH CEDILLA;"
    ++ "LATIN SMALL LETTER R WITH CEDILLA;LATIN CAPITAL LETTER R WITH CARON;"
    ++ "LATIN SMALL LETTER R WITH CARON;LATIN CAPITAL LETTER S WITH ACUTE;"
    ++ "LATIN SMALL LETTER S WITH ACUTE;LATIN CAPITAL LETTER S WITH CIRCUMFLEX;"
    ++ "LATIN SMALL LETTER S WITH CIRCUMFLEX;LATIN CAPITAL LETTER S WITH CEDILLA;"
    ++ "LATIN SMALL LETTER S WITH CEDILLA;LATIN CAPITAL LETTER S WITH CARON;"
    ++ "LATIN SMALL LETTER S WITH CARON;LATIN CAPITAL LETTER T WITH CEDILLA;"
    ++ "LATIN SMALL LETTER T WITH CEDILLA;LATIN CAPITAL LETTER T WITH CARON;"
    ++ "LATIN SMALL LETTER T WITH CARON;LATIN CAPITAL LETTER T WITH STROKE;"
    ++ "LATIN SMALL LETTER T WITH STROKE;LATIN CAPITAL LETTER U WITH TILDE;"
    ++ "LATIN SMALL LETTER U WITH TILDE;LATIN CAPITAL LETTER U WITH MACRON;"
    ++ "LATIN SMALL LETTER U WITH MACRON;LATIN CAPITAL LETTER U WITH BREVE;"
    ++ "LATIN SMALL LETTER U WITH BREVE;LATIN CAPITAL LETTER U WITH RING ABOVE;"
    ++ "LATIN SMALL LETTER U WITH RING ABOVE;LATIN CAPITAL LETTER U WITH DOUBLE ACUTE;"
    ++ "LATIN SMALL LETTER U WITH DOUBLE ACUTE;LATIN CAPITAL LETTER U WITH OGONEK;"
    ++ "LATIN SMALL LETTER U WITH OGONEK;LATIN CAPITAL LETTER W WITH CIRCUMFLEX;"
    ++ "LATIN SMALL LETTER W WITH CIRCUMFLEX;LATIN CAPITAL LETTER Y WITH CIRCUMFLEX;"
    ++ "LATIN SMALL LETTER Y WITH CIRCUMFLEX;LATIN CAPITAL LETTER Y WITH DIAERESIS;"
    ++ "LATIN CAPITAL LETTER Z WITH ACUTE;LATIN SMALL LETTER Z WITH ACUTE;"
    ++ "LATIN CAPITAL LETTER Z WITH DOT ABOVE;LATIN SMALL LETTER Z WITH DOT ABOVE;"
    ++ "LATIN CAPITAL LETTER Z WITH CARON;LATIN SMALL LETTER Z WITH CARON;"
    ++ "LATIN SMALL LETTER LONG S"),
  (0x386,
    "GREEK CAPITAL LETTER ALPHA WITH TONOS;GREEK ANO TELEIA;"
    ++ "GREEK CAPITAL LETTER EPSILON WITH TONOS;GREEK CAPITAL LETTER ETA WITH TONOS;"
    ++ "GREEK CAPITAL LETTER IOTA WITH TONOS"),
  (0x38e,
    "GREEK CAPITAL LETTER UPSILON WITH TONOS;GREEK CAPITAL LETTER OMEGA WITH TONOS;"
    ++ "GREEK SMALL LETTER IOTA WITH DIALYTIKA AND TONOS;GREEK CAPITAL LETTER ALPHA;"
    ++ "GREEK CAPITAL LETTER BETA;GREEK CAPITAL LETTER GAMMA;GREEK CAPITAL LETTER DELTA;"
    ++ "GREEK CAPITAL LETTER EPSILON;GREEK CAPITAL LETTER ZETA;GREEK CAPITAL LETTER ETA;"
    ++ "GREEK CAPITAL LETTER THETA;GREEK CAPITAL LETTER IOTA;GREEK CAPITAL LETTER KAPPA;"
    ++ "GREEK CAPITAL LETTER LAMDA;GREEK CAPITAL LETTER MU;GREEK CAPITAL LETTER NU;"
    ++ "GREEK CAPITAL LETTER XI;GREEK CAPITAL LETTER OMICRON;GREEK CAPITAL LETTER PI;"
    ++ "GREEK CAPITAL LETTER RHO"),
  (0x3a3,
    "GREEK CAPITAL LETTER SIGMA;GREEK CAPITAL LETTER TAU;GREEK CAPITAL LETTER UPSILON;"
    ++ "GREEK CAPITAL LETTER PHI;GREEK CAPITAL LETTER CHI;GREEK CAPITAL LETTER PSI;"
    ++ "GREEK CAPITAL LETTER OMEGA;GREEK CAPITAL LETTER IOTA WITH DIALYTIKA;"
    ++ "GREEK CAPITAL LETTER UPSILON WITH DIALYTIKA;GREEK SMALL LETTER ALPHA WITH TONOS;"
    ++ "GREEK SMALL LETTER EPSILON WITH TONOS;GREEK SMALL LETTER ETA WITH TONOS;"
    ++ "GREEK SMALL LETTER IOTA WITH TONOS;GREEK SMALL LETTER UPSILON WITH DIALYTIKA AND TONOS;"
    ++ "GREEK SMALL LETTER ALPHA;GREEK SMALL LETTER BETA;GREEK SMALL LETTER GAMMA;"
    ++ "GREEK SMALL LETTER DELTA;GREEK SMALL LETTER EPSILON;GREEK SMALL LETTER ZETA;"
    ++ "GREEK SMALL LETTER ETA;GREEK SMALL LETTER THETA;GREEK SMALL LETTER IOTA;"
    ++ "GREEK SMALL LETTER KAPPA;GREEK SMALL LETTER LAMDA;GREEK SMALL LETTER MU;"
    ++ "GREEK SMALL LETTER NU;GREEK SMALL LETTER XI;GREEK SMALL LETTER OMICRON;"
    ++ "GREEK SMALL LETTER PI;GREEK SMALL LETTER RHO;GREEK SMALL LETTER FINAL SIGMA;"
    ++ "GREEK SMALL LETTER SIGMA;GREEK SMALL LETTER TAU;GREEK SMALL LETTER UPSILON;"
    ++ "GREEK SMALL LETTER PHI;GREEK SMALL LETTER CHI;GREEK SMALL LETTER PSI;"
    ++ "GREEK SMALL LETTER OMEGA;GREEK SMALL LETTER IOTA WITH DIALYTIKA;"
    ++ "GREEK SMALL LETTER UPSILON WITH DIALYTIKA;GREEK SMALL LETTER OMICRON WITH TONOS;"
    ++ "GREEK SMALL LETTER UPSILON WITH TONOS;GREEK SMALL LETTER OMEGA WITH TONOS"),
  (0x400,
    "CYRILLIC CAPITAL LETTER IE WITH GRAVE;CYRILLIC CAPITAL LETTER IO;"
    ++ "CYRILLIC CAPITAL LETTER DJE;CYRILLIC CAPITAL LETTER GJE;"
    ++ "CYRILLIC CAPITAL LETTER UKRAINIAN IE;CYRILLIC CAPITAL LETTER DZE;"
    ++ "CYRILLIC CAPITAL LETTER BYELORUSSIAN-UKRAINIAN I;CYRILLIC CAPITAL LETTER YI;"
    ++ "CYRILLIC CAPITAL LETTER JE;CYRILLIC CAPITAL LETTER LJE;CYRILLIC CAPITAL LETTER NJE;"
    ++ "CYRILLIC CAPITAL LETTER TSHE;CYRILLIC CAPITAL LETTER KJE;"
    ++ "CYRILLIC CAPITAL LETTER I WITH GRAVE;CYRILLIC CAPITAL LETTER SHORT U;"
    ++ "CYRILLIC CAPITAL LETTER DZHE;CYRILLIC CAPITAL LETTER A;CYRILLIC CAPITAL LETTER BE;"
    ++ "CYRILLIC CAPITAL LETTER VE;CYRILLIC CAPITAL LETTER GHE;CYRILLIC CAPITAL LETTER DE;"
    ++ "CYRILLIC CAPITAL LETTER IE;CYRILLIC CAPITAL LETTER ZHE;CYRILLIC CAPITAL LETTER ZE;"
    ++ "CYRILLIC CAPITAL LETTER I;CYRILLIC CAPITAL LETTER SHORT I;CYRILLIC CAPITAL LETTER KA;"
    ++ "CYRILLIC CAPITAL LETTER EL;CYRILLIC CAPITAL LETTER EM;CYRILLIC CAPITAL LETTER EN;"
    ++ "CYRILLIC CAPITAL LETTER O;CYRILLIC CAPITAL LETTER PE;CYRILLIC CAPITAL LETTER ER;"
    ++ "CYRILLIC CAPITAL LETTER ES;CYRILLIC CAPITAL LETTER TE;CYRILLIC CAPITAL LETTER U;"
    ++ "CYRILLIC CAPITAL LETTER EF;CYRILLIC CAPITAL LETTER HA;CYRILLIC CAPITAL LETTER TSE;"
    ++ "CYRILLIC CAPITAL LETTER CHE;CYRILLIC CAPITAL LETTER SHA;CYRILLIC CAPITAL LETTER SHCHA;"
    ++ "CYRILLIC CAPITAL LETTER HARD SIGN;CYRILLIC CAPITAL LETTER YERU;"
    ++ "CYRILLIC CAPITAL LETTER SOFT SIGN;CYRILLIC CAPITAL LETTER E;CYRILLIC CAPITAL LETTER YU;"
    ++ "CYRILLIC CAPITAL LETTER YA;CYRILLIC SMALL LETTER A;CYRILLIC SMALL LETTER BE;"
    ++ "CYRILLIC SMALL LETTER VE;CYRILLIC SMALL LETTER GHE;CYRILLIC SMALL LETTER DE;"
    ++ "CYRILLIC SMALL LETTER IE;CYRILLIC SMALL LETTER ZHE;CYRILLIC SMALL LETTER ZE;"
    ++ "CYRILLIC SMALL LETTER I;CYRILLIC SMALL LETTER SHORT I;CYRILLIC SMALL LETTER KA;"
    ++ "CYRILLIC SMALL LETTER EL;CYRILLIC SMALL LETTER EM;CYRILLIC SMALL LETTER EN;"
    ++ "CYRILLIC SMALL LETTER O;CYRILLIC SMALL LETTER PE;CYRILLIC SMALL LETTER ER;"
    ++ "CYRILLIC SMALL LETTER ES;CYRILLIC SMALL LETTER TE;CYRILLIC SMALL LETTER U;"
    ++ "CYRILLIC SMALL LETTER EF;CYRILLIC SMALL LETTER HA;CYRILLIC SMALL LETTER TSE;"
    ++ "CYRILLIC SMALL LETTER CHE;CYRILLIC SMALL LETTER SHA;CYRILLIC SMALL LETTER SHCHA;"
    ++ "CYRILLIC SMALL LETTER HARD SIGN;CYRILLIC SMALL LETTER YERU;"
    ++ "CYRILLIC SMALL LETTER SOFT SIGN;CYRILLIC SMALL LETTER E;CYRILLIC SMALL LETTER YU;"
    ++ "CYRILLIC SMALL LETTER YA;CYRILLIC SMALL LETTER IE WITH GRAVE;CYRILLIC SMALL LETTER IO;"
    ++ "CYRILLIC SMALL LETTER DJE;CYRILLIC SMALL LETTER GJE;CYRILLIC SMALL LETTER UKRAINIAN IE;"
    ++ "CYRILLIC SMALL LETTER DZE;CYRILLIC SMALL LETTER BYELORUSSIAN-UKRAINIAN I;"
    ++ "CYRILLIC SMALL LETTER YI;CYRILLIC SMALL LETTER JE;CYRILLIC SMALL LETTER LJE;"
    ++ "CYRILLIC SMALL LETTER NJE;CYRILLIC SMALL LETTER TSHE;CYRILLIC SMALL LETTER KJE;"
    ++ "CYRILLIC SMALL LETTER I WITH GRAVE;CYRILLIC SMALL LETTER SHORT U;"
    ++ "CYRILLIC SMALL LETTER DZHE"),
  (0x2000,
    "EN QUAD;EM QUAD;EN SPACE;EM SPACE;THREE-PER-EM SPACE;FOUR-PER-EM SPACE;SIX-PER-EM SPACE;"
    ++ "FIGURE SPACE;PUNCTUATION SPACE;THIN SPACE;HAIR SPACE;ZERO WIDTH SPACE;"
    ++ "ZERO WIDTH NON-JOINER;ZERO WIDTH JOINER;LEFT-TO-RIGHT MARK;RIGHT-TO-LEFT MARK;HYPHEN;"
    ++ "NON-BREAKING HYPHEN;FIGURE DASH;EN DASH;EM DASH;HORIZONTAL BAR;DOUBLE VERTICAL LINE;"
    ++ "DOUBLE LOW LINE;LEFT SINGLE QUOTATION MARK;RIGHT SINGLE QUOTATION MARK;"
    ++ "SINGLE LOW-9 QUOTATION MARK;SINGLE HIGH-REVERSED-9 QUOTATION MARK;"
    ++ "LEFT DOUBLE QUOTATION MARK;RIGHT DOUBLE QUOTATION MARK;DOUBLE LOW-9 QUOTATION MARK;"
    ++ "DOUBLE HIGH-REVERSED-9 QUOTATION MARK;DAGGER;DOUBLE DAGGER;BULLET;TRIANGULAR BULLET;"
    ++ "ONE DOT LEADER;TWO DOT LEADER;HORIZONTAL ELLIPSIS;HYPHENATION POINT;LINE SEPARATOR;"
    ++ "PARAGRAPH SEPARATOR;LEFT-TO-RIGHT EMBEDDING;RIGHT-TO-LEFT EMBEDDING;"
    ++ "POP DIRECTIONAL FORMATTING;LEFT-TO-RIGHT OVERRIDE;RIGHT-TO-LEFT OVERRIDE;"
    ++ "NARROW NO-BREAK SPACE;PER MILLE SIGN;PER TEN THOUSAND SIGN;PRIME;DOUBLE PRIME;"
    ++ "TRIPLE PRIME;REVERSED PRIME;REVERSED DOUBLE PRIME;REVERSED TRIPLE PRIME;CARET;"
    ++ "SINGLE LEFT-POINTING ANGLE QUOTATION MARK;SINGLE RIGHT-POINTING ANGLE QUOTATION MARK;"
    ++ "REFERENCE MARK;DOUBLE EXCLAMATION MARK;INTERROBANG;OVERLINE"),
  (0x20a0,
    "EURO-CURRENCY SIGN;COLON SIGN;CRUZEIRO SIGN;FRENCH FRANC SIGN;LIRA SIGN;MILL SIGN;"
    ++ "NAIRA SIGN;PESETA SIGN;RUPEE SIGN;WON SIGN;NEW SHEQEL SIGN;DONG SIGN;EURO SIGN;KIP SIGN;"
    ++ "TUGRIK SIGN;DRACHMA SIGN;GERMAN PENNY SIGN;PESO SIGN;GUARANI SIGN;AUSTRAL SIGN;"
    ++ "HRYVNIA SIGN;CEDI SIGN;LIVRE TOURNOIS SIGN;SPESMILO SIGN;TENGE SIGN;INDIAN RUPEE SIGN;"
    ++ "TURKISH LIRA SIGN;NORDIC MARK SIGN;MANAT SIGN;RUBLE SIGN;LARI SIGN;BITCOIN SIGN"),
  (0x2190,
    "LEFTWARDS ARROW;UPWARDS ARROW;RIGHTWARDS ARROW;DOWNWARDS ARROW;LEFT RIGHT ARROW;"
    ++ "UP DOWN ARROW;NORTH WEST ARROW;NORTH EAST ARROW;SOUTH EAST ARROW;SOUTH WEST ARROW;"
    ++ "LEFTWARDS ARROW WITH STROKE;RIGHTWARDS ARROW WITH STROKE;LEFTWARDS WAVE ARROW;"
    ++ "RIGHTWARDS WAVE ARROW;LEFTWARDS TWO HEADED ARROW;UPWARDS TWO HEADED ARROW"),
  (0x21d0,
    "LEFTWARDS DOUBLE ARROW;UPWARDS DOUBLE ARROW;RIGHTWARDS DOUBLE ARROW;"
    ++ "DOWNWARDS DOUBLE ARROW;LEFT RIGHT DOUBLE ARROW;UP DOWN DOUBLE ARROW"),
  (0x2200,
    "FOR ALL;COMPLEMENT;PARTIAL DIFFERENTIAL;THERE EXISTS;THERE DOES NOT EXIST;EMPTY SET;"
    ++ "INCREMENT;NABLA;ELEMENT OF;NOT AN ELEMENT OF;SMALL ELEMENT OF;CONTAINS AS MEMBER;"
    ++ "DOES NOT CONTAIN AS MEMBER;SMALL CONTAINS AS MEMBER;END OF PROOF;N-ARY PRODUCT;"
    ++ "N-ARY COPRODUCT;N-ARY SUMMATION;MINUS SIGN;MINUS-OR-PLUS SIGN;DOT PLUS;DIVISION SLASH;"
    ++ "SET MINUS;ASTERISK OPERATOR;RING OPERATOR;BULLET OPERATOR;SQUARE ROOT;CUBE ROOT;"
    ++ "FOURTH ROOT;PROPORTIONAL TO;INFINITY;RIGHT ANGLE;ANGLE;MEASURED ANGLE;SPHERICAL ANGLE;"
    ++ "DIVIDES;DOES NOT DIVIDE;PARALLEL TO;NOT PARALLEL TO;LOGICAL AND;LOGICAL OR;INTERSECTION;"
    ++ "UNION;INTEGRAL;DOUBLE INTEGRAL;TRIPLE INTEGRAL;CONTOUR INTEGRAL;SURFACE INTEGRAL;"
    ++ "VOLUME INTEGRAL;CLOCKWISE INTEGRAL;CLOCKWISE CONTOUR INTEGRAL;"
    ++ "ANTICLOCKWISE CONTOUR INTEGRAL;THEREFORE;BECAUSE;RATIO;PROPORTION;DOT MINUS;EXCESS;"
    ++ "GEOMETRIC PROPORTION;HOMOTHETIC;TILDE OPERATOR;REVERSED TILDE;INVERTED LAZY S;SINE WAVE;"
    ++ "WREATH PRODUCT;NOT TILDE;MINUS TILDE;ASYMPTOTICALLY EQUAL TO;"
    ++ "NOT ASYMPTOTICALLY EQUAL TO;APPROXIMATELY EQUAL TO;"
    ++ "APPROXIMATELY BUT NOT ACTUALLY EQUAL TO;NEITHER APPROXIMATELY NOR ACTUALLY EQUAL TO;"
    ++ "ALMOST EQUAL TO;NOT ALMOST EQUAL TO;ALMOST EQUAL OR EQUAL TO;TRIPLE TILDE;ALL EQUAL TO;"
    ++ "EQUIVALENT TO;GEOMETRICALLY EQUIVALENT TO;DIFFERENCE BETWEEN;APPROACHES THE LIMIT;"
    ++ "GEOMETRICALLY EQUAL TO;APPROXIMATELY EQUAL TO OR THE IMAGE OF;"
    ++ "IMAGE OF OR APPROXIMATELY EQUAL TO;COLON EQUALS;EQUALS COLON;RING IN EQUAL TO;"
    ++ "RING EQUAL TO;CORRESPONDS TO;ESTIMATES;EQUIANGULAR TO;STAR EQUALS;DELTA EQUAL TO;"
    ++ "EQUAL TO BY DEFINITION;MEASURED BY;QUESTIONED EQUAL TO;NOT EQUAL TO;IDENTICAL TO;"
    ++ "NOT IDENTICAL TO;STRICTLY EQUIVALENT TO;LESS-THAN OR EQUAL TO;GREATER-THAN OR EQUAL TO"),
  (0x2580,
    "UPPER HALF BLOCK;LOWER ONE EIGHTH BLOCK;LOWER ONE QUARTER BLOCK;"
    ++ "LOWER THREE EIGHTHS BLOCK;LOWER HALF BLOCK;LOWER FIVE EIGHTHS BLOCK;"
    ++ "LOWER THREE QUARTERS BLOCK;LOWER SEVEN EIGHTHS BLOCK;FULL BLOCK"),
  (0x25a0,
    "BLACK SQUARE;WHITE SQUARE;WHITE SQUARE WITH ROUNDED CORNERS;"
    ++ "WHITE SQUARE CONTAINING BLACK SMALL SQUARE;SQUARE WITH HORIZONTAL FILL;"
    ++ "SQUARE WITH VERTICAL FILL;SQUARE WITH ORTHOGONAL CROSSHATCH FILL;"
    ++ "SQUARE WITH UPPER LEFT TO LOWER RIGHT FILL;SQUARE WITH UPPER RIGHT TO LOWER LEFT FILL;"
    ++ "SQUARE WITH DIAGONAL CROSSHATCH FILL;BLACK SMALL SQUARE;WHITE SMALL SQUARE;"
    ++ "BLACK RECTANGLE;WHITE RECTANGLE;BLACK VERTICAL RECTANGLE;WHITE VERTICAL RECTANGLE;"
    ++ "BLACK PARALLELOGRAM;WHITE PARALLELOGRAM;BLACK UP-POINTING TRIANGLE;"
    ++ "WHITE UP-POINTING TRIANGLE;BLACK UP-POINTING SMALL TRIANGLE;"
    ++ "WHITE UP-POINTING SMALL TRIANGLE;BLACK RIGHT-POINTING TRIANGLE;"
    ++ "WHITE RIGHT-POINTING TRIANGLE;BLACK RIGHT-POINTING SMALL TRIANGLE;"
    ++ "WHITE RIGHT-POINTING SMALL TRIANGLE;BLACK RIGHT-POINTING POINTER;"
    ++ "WHITE RIGHT-POINTING POINTER;BLACK DOWN-POINTING TRIANGLE;WHITE DOWN-POINTING TRIANGLE;"
    ++ "BLACK DOWN-POINTING SMALL TRIANGLE;WHITE DOWN-POINTING SMALL TRIANGLE;"
    ++ "BLACK LEFT-POINTING TRIANGLE;WHITE LEFT-POINTING TRIANGLE;"
    ++ "BLACK LEFT-POINTING SMALL TRIANGLE;WHITE LEFT-POINTING SMALL TRIANGLE;"
    ++ "BLACK LEFT-POINTING POINTER;WHITE LEFT-POINTING POINTER;BLACK DIAMOND;WHITE DIAMOND;"
    ++ "WHITE DIAMOND CONTAINING BLACK SMALL DIAMOND;FISHEYE;LOZENGE;WHITE CIRCLE;DOTTED CIRCLE;"
    ++ "CIRCLE WITH VERTICAL FILL;BULLSEYE;BLACK CIRCLE"),
  (0x2600,
    "BLACK SUN WITH RAYS;CLOUD;UMBRELLA;SNOWMAN;COMET;BLACK STAR;WHITE STAR;LIGHTNING;"
    ++ "THUNDERSTORM;SUN;ASCENDING NODE;DESCENDING NODE;CONJUNCTION;OPPOSITION;BLACK TELEPHONE;"
    ++ "WHITE TELEPHONE;BALLOT BOX;BALLOT BOX WITH CHECK;BALLOT BOX WITH X;SALTIRE;"
    ++ "UMBRELLA WITH RAIN DROPS;HOT BEVERAGE;WHITE SHOGI PIECE;BLACK SHOGI PIECE;SHAMROCK;"
    ++ "REVERSED ROTATED FLORAL HEART BULLET;BLACK LEFT POINTING INDEX;"
    ++ "BLACK RIGHT POINTING INDEX;WHITE LEFT POINTING INDEX;WHITE UP POINTING INDEX;"
    ++ "WHITE RIGHT POINTING INDEX;WHITE DOWN POINTING INDEX;SKULL AND CROSSBONES;CAUTION SIGN;"
    ++ "RADIOACTIVE SIGN;BIOHAZARD SIGN;CADUCEUS;ANKH;ORTHODOX CROSS;CHI RHO;CROSS OF LORRAINE;"
    ++ "CROSS OF JERUSALEM;STAR AND CRESCENT;FARSI SYMBOL;ADI SHAKTI;HAMMER AND SICKLE;"
    ++ "PEACE SYMBOL;YIN YANG;TRIGRAM FOR HEAVEN;TRIGRAM FOR LAKE;TRIGRAM FOR FIRE;"
    ++ "TRIGRAM FOR THUNDER;TRIGRAM FOR WIND;TRIGRAM FOR WATER;TRIGRAM FOR MOUNTAIN;"
    ++ "TRIGRAM FOR EARTH;WHEEL OF DHARMA;WHITE FROWNING FACE;WHITE SMILING FACE;"
    ++ "BLACK SMILING FACE;WHITE SUN WITH RAYS;FIRST QUARTER MOON;LAST QUARTER MOON;MERCURY;"
    ++ "FEMALE SIGN;EARTH;MALE SIGN;JUPITER;SATURN;URANUS;NEPTUNE;PLUTO;ARIES;TAURUS;GEMINI;"
    ++ "CANCER;LEO;VIRGO;LIBRA;SCORPIUS;SAGITTARIUS;CAPRICORN;AQUARIUS;PISCES;WHITE CHESS KING;"
    ++ "WHITE CHESS QUEEN;WHITE CHESS ROOK;WHITE CHESS BISHOP;WHITE CHESS KNIGHT;"
    ++ "WHITE CHESS PAWN;BLACK CHESS KING;BLACK CHESS QUEEN;BLACK CHESS ROOK;BLACK CHESS BISHOP;"
    ++ "BLACK CHESS KNIGHT;BLACK CHESS PAWN;BLACK SPADE SUIT;WHITE HEART SUIT;"
    ++ "WHITE DIAMOND SUIT;BLACK CLUB SUIT;WHITE SPADE SUIT;BLACK HEART SUIT;BLACK DIAMOND SUIT;"
    ++ "WHITE CLUB SUIT;HOT SPRINGS;QUARTER NOTE;EIGHTH NOTE;BEAMED EIGHTH NOTES;"
    ++ "BEAMED SIXTEENTH NOTES;MUSIC FLAT SIGN;MUSIC NATURAL SIGN;MUSIC SHARP SIGN"),
  (0x2713,
    "CHECK MARK;HEAVY CHECK MARK;MULTIPLICATION X;HEAVY MULTIPLICATION X;BALLOT X;"
    ++ "HEAVY BALLOT X"),
  (0x1f600,
    "GRINNING FACE;GRINNING FACE WITH SMILING EYES;FACE WITH TEARS OF JOY;"
    ++ "SMILING FACE WITH OPEN MOUTH;SMILING FACE WITH OPEN MOUTH AND SMILING EYES;"
    ++ "SMILING FACE WITH OPEN MOUTH AND COLD SWEAT;"
    ++ "SMILING FACE WITH OPEN MOUTH AND TIGHTLY-CLOSED EYES;SMILING FACE WITH HALO;"
    ++ "SMILING FACE WITH HORNS;WINKING FACE;SMILING FACE WITH SMILING EYES;"
    ++ "FACE SAVOURING DELICIOUS FOOD;RELIEVED FACE;SMILING FACE WITH HEART-SHAPED EYES;"
    ++ "SMILING FACE WITH SUNGLASSES;SMIRKING FACE;NEUTRAL FACE;EXPRESSIONLESS FACE;"
    ++ "UNAMUSED FACE;FACE WITH COLD SWEAT;PENSIVE FACE;CONFUSED FACE;CONFOUNDED FACE;"
    ++ "KISSING FACE;FACE THROWING A KISS;KISSING FACE WITH SMILING EYES;"
    ++ "KISSING FACE WITH CLOSED EYES;FACE WITH STUCK-OUT TONGUE;"
    ++ "FACE WITH STUCK-OUT TONGUE AND WINKING EYE;"
    ++ "FACE WITH STUCK-OUT TONGUE AND TIGHTLY-CLOSED EYES;DISAPPOINTED FACE;WORRIED FACE;"
    ++ "ANGRY FACE;POUTING FACE;CRYING FACE;PERSEVERING FACE;FACE WITH LOOK OF TRIUMPH;"
    ++ "DISAPPOINTED BUT RELIEVED FACE;FROWNING FACE WITH OPEN MOUTH;ANGUISHED FACE;"
    ++ "FEARFUL FACE;WEARY FACE;SLEEPY FACE;TIRED FACE;GRIMACING FACE;LOUDLY CRYING FACE;"
    ++ "FACE WITH OPEN MOUTH;HUSHED FACE;FACE WITH OPEN MOUTH AND COLD SWEAT;"
    ++ "FACE SCREAMING IN FEAR;ASTONISHED FACE;FLUSHED FACE;SLEEPING FACE;DIZZY FACE;"
    ++ "FACE WITHOUT MOUTH;FACE WITH MEDICAL MASK;GRINNING CAT FACE WITH SMILING EYES;"
    ++ "CAT FACE WITH TEARS OF JOY;SMILING CAT FACE WITH OPEN MOUTH;"
    ++ "SMILING CAT FACE WITH HEART-SHAPED EYES;CAT FACE WITH WRY SMILE;"
    ++ "KISSING CAT FACE WITH CLOSED EYES;POUTING CAT FACE;CRYING CAT FACE;WEARY CAT FACE;"
    ++ "SLIGHTLY FROWNING FACE;SLIGHTLY SMILING FACE;UPSIDE-DOWN FACE;FACE WITH ROLLING EYES;"
    ++ "FACE WITH NO GOOD GESTURE;FACE WITH OK GESTURE;PERSON BOWING DEEPLY;SEE-NO-EVIL MONKEY;"
    ++ "HEAR-NO-EVIL MONKEY;SPEAK-NO-EVIL MONKEY;HAPPY PERSON RAISING ONE HAND;"
    ++ "PERSON RAISING BOTH HANDS IN CELEBRATION;PERSON FROWNING;PERSON WITH POUTING FACE;"
    ++ "PERSON WITH FOLDED HANDS"),
  (0x192, "LATIN SMALL LETTER F WITH HOOK"), (0x2c6, "MODIFIER LETTER CIRCUMFLEX ACCENT"),
  (0x2c7, "CARON"), (0x2d8, "BREVE"), (0x2d9, "DOT ABOVE"), (0x2da, "RING ABOVE"),
  (0x2dc, "SMALL TILDE"), (0x300, "COMBINING GRAVE ACCENT"), (0x301, "COMBINING ACUTE ACCENT"),
  (0x302, "COMBINING CIRCUMFLEX ACCENT"), (0x303, "COMBINING TILDE"),
  (0x308, "COMBINING DIAERESIS"), (0x5d0, "HEBREW LETTER ALEF"), (0x627, "ARABIC LETTER ALEF"),
  (0x660, "ARABIC-INDIC DIGIT ZERO"), (0x966, "DEVANAGARI DIGIT ZERO"),
  (0x2044, "FRACTION SLASH"), (0x2060, "WORD JOINER"), (0x2070, "SUPERSCRIPT ZERO"),
  (0x2074, "SUPERSCRIPT FOUR"), (0x2102, "DOUBLE-STRUCK CAPITAL C"), (0x2103, "DEGREE CELSIUS"),
  (0x2107, "EULER CONSTANT"), (0x210e, "PLANCK CONSTANT"),
  (0x210f, "PLANCK CONSTANT OVER TWO PI"), (0x2113, "SCRIPT SMALL L"),
  (0x2115, "DOUBLE-STRUCK CAPITAL N"), (0x2116, "NUMERO SIGN"),
  (0x2117, "SOUND RECORDING COPYRIGHT"), (0x211a, "DOUBLE-STRUCK CAPITAL Q"),
  (0x211d, "DOUBLE-STRUCK CAPITAL R"), (0x2122, "TRADE MARK SIGN"),
  (0x2124, "DOUBLE-STRUCK CAPITAL Z"), (0x2126, "OHM SIGN"), (0x212a, "KELVIN SIGN"),
  (0x212b, "ANGSTROM SIGN"), (0x212e, "ESTIMATED SYMBOL"), (0x2135, "ALEF SYMBOL"),
  (0x2150, "VULGAR FRACTION ONE SEVENTH"), (0x2153, "VULGAR FRACTION ONE THIRD"),
  (0x2154, "VULGAR FRACTION TWO THIRDS"), (0x215b, "VULGAR FRACTION ONE EIGHTH"),
  (0x215c, "VULGAR FRACTION THREE EIGHTHS"), (0x215d, "VULGAR FRACTION FIVE EIGHTHS"),
  (0x215e, "VULGAR FRACTION SEVEN EIGHTHS"), (0x2160, "ROMAN NUMERAL ONE"), (0x231a, "WATCH"),
  (0x231b, "HOURGLASS"), (0x2318, "PLACE OF INTEREST SIGN"), (0x23ce, "RETURN SYMBOL"),
  (0x2460, "CIRCLED DIGIT ONE"), (0x2502, "BOX DRAWINGS LIGHT VERTICAL"),
  (0x2500, "BOX DRAWINGS LIGHT HORIZONTAL"), (0x25e6, "WHITE BULLET"),
  (0x2660, "BLACK SPADE SUIT"), (0x26a0, "WARNING SIGN"), (0x26a1, "HIGH VOLTAGE SIGN"),
  (0x2705, "WHITE HEAVY CHECK MARK"), (0x2702, "BLACK SCISSORS"), (0x2709, "ENVELOPE"),
  (0x270f, "PENCIL"), (0x2728, "SPARKLES"), (0x274c, "CROSS MARK"),
  (0x2753, "BLACK QUESTION MARK ORNAMENT"), (0x2757, "HEAVY EXCLAMATION MARK SYMBOL"),
  (0x2764, "HEAVY BLACK HEART"), (0x27a1, "BLACK RIGHTWARDS ARROW"),
  (0x2b50, "WHITE MEDIUM STAR"), (0x3000, "IDEOGRAPHIC SPACE"), (0x3001, "IDEOGRAPHIC COMMA"),
  (0x3002, "IDEOGRAPHIC FULL STOP"), (0x3042, "HIRAGANA LETTER A"), (0x30a2, "KATAKANA LETTER A"),
  (0xfb01, "LATIN SMALL LIGATURE FI"), (0xfb02, "LATIN SMALL LIGATURE FL"),
  (0xfeff, "ZERO WIDTH NO-BREAK SPACE"), (0xfffd, "REPLACEMENT CHARACTER"),
  (0x1f30d, "EARTH GLOBE EUROPE-AFRICA"), (0x1f389, "PARTY POPPER"), (0x1f40d, "SNAKE"),
  (0x1f44d, "THUMBS UP SIGN"), (0x1f4a9, "PILE OF POO"), (0x1f511, "KEY"), (0x1f512, "LOCK"),
  (0x1f513, "OPEN LOCK"), (0x1f525, "FIRE"), (0x1f680, "ROCKET"), (0x1f514, "BELL"),
  (0x10000, "LINEAR B SYLLABLE B008 A"), (0x1d400, "MATHEMATICAL BOLD CAPITAL A"), (0x0, "NULL"),
  (0x0, "NUL"), (0x1, "START OF HEADING"), (0x1, "SOH"), (0x2, "START OF TEXT"), (0x2, "STX"),
  (0x3, "END OF TEXT"), (0x3, "ETX"), (0x4, "END OF TRANSMISSION"), (0x4, "EOT"),
  (0x5, "ENQUIRY"), (0x5, "ENQ"), (0x6, "ACKNOWLEDGE"), (0x6, "ACK"), (0x7, "ALERT"),
  (0x7, "BEL"), (0x8, "BACKSPACE"), (0x8, "BS"), (0x9, "CHARACTER TABULATION"),
  (0x9, "HORIZONTAL TABULATION"), (0x9, "HT"), (0x9, "TAB"), (0xa, "LINE FEED"),
  (0xa, "NEW LINE"), (0xa, "END OF LINE"), (0xa, "LF"), (0xa, "NL"), (0xa, "EOL"),
  (0xb, "LINE TABULATION"), (0xb, "VERTICAL TABULATION"), (0xb, "VT"), (0xc, "FORM FEED"),
  (0xc, "FF"), (0xd, "CARRIAGE RETURN"), (0xd, "CR"), (0xe, "SHIFT OUT"), (0xf, "SHIFT IN"),
  (0x1b, "ESCAPE"), (0x1b, "ESC"), (0x1a, "SUBSTITUTE"), (0x1a, "SUB"), (0x18, "CANCEL"),
  (0x18, "CAN"), (0x1c, "FILE SEPARATOR"), (0x1c, "FS"), (0x1d, "GROUP SEPARATOR"), (0x1d, "GS"),
  (0x1e, "RECORD SEPARATOR"), (0x1e, "RS"), (0x1f, "UNIT SEPARATOR"), (0x1f, "US"), (0x20, "SP"),
  (0x7f, "DELETE"), (0x7f, "DEL"), (0x85, "NEXT LINE"), (0x85, "NEL"), (0xa0, "NBSP"),
  (0xad, "SOFT HYPHEN"), (0xad, "SHY"), (0xfeff, "BYTE ORDER MARK"), (0xfeff, "BOM"),
  (0xfeff, "ZWNBSP"), (0x200b, "ZWSP"), (0x200c, "ZWNJ"), (0x200d, "ZWJ"), (0x200e, "LRM"),
  (0x200f, "RLM"), (0x1a2, "LATIN CAPITAL LETTER GHA"), (0x1a3, "LATIN SMALL LETTER GHA"),
  (0x2118, "WEIERSTRASS ELLIPTIC FUNCTION")
]

/-- The number of a character whose name is in the table; letters may be in either case. -/
def tabulated? (name : List Char) : Option Nat :=
  let sought := String.ofList (name.map Char.toUpper)
  characterNames.findSome? fun (first, names) =>
    ((names.splitOn ";").findIdx? (· == sought)).map (first + ·)

/-- What follows a text at the start of a name. -/
def afterStart? : (start name : List Char) → Option (List Char)
  | [], name => some name
  | c :: start, d :: name => if c = d then afterStart? start name else none
  | _, [] => none

def ideographs : List (Nat × Nat) := [
  (0x3400, 0x4dbf), (0x4e00, 0x9fff), (0x20000, 0x2a6df), (0x2a700, 0x2b738),
  (0x2b740, 0x2b81d), (0x2b820, 0x2cea1), (0x2ceb0, 0x2ebe0), (0x30000, 0x3134a)]

/-- An ideograph by its number in capital digits of base sixteen. -/
def ideograph? (name : List Char) : Option Nat := do
  let digits ← afterStart? "CJK UNIFIED IDEOGRAPH-".toList name
  let isDigit (c : Char) : Bool := c.isDigit || ('A' ≤ c && c ≤ 'F')
  if (digits.length != 4 && digits.length != 5) || !digits.all isDigit then none
  let number := digits.foldl (fun n c => 16 * n + (c.toNat - (if c.isDigit then 48 else 55))) 0
  if ideographs.any fun r => r.1 ≤ number && number ≤ r.2 then some number else none

def leadingLetters : List String :=
  ["G", "GG", "N", "D", "DD", "R", "M", "B", "BB", "S", "SS", "", "J", "JJ", "C", "K", "T", "P",
    "H"]

def vowelLetters : List String :=
  ["A", "AE", "YA", "YAE", "EO", "E", "YEO", "YE", "O", "WA", "WAE", "OE", "YO", "U", "WEO", "WE",
    "WI", "YU", "EU", "YI", "I"]

def trailingLetters : List String :=
  ["", "G", "GG", "GS", "N", "NJ", "NH", "D", "L", "LG", "LM", "LB", "LS", "LT", "LP", "LH", "M",
    "B", "BS", "S", "SS", "NG", "J", "C", "K", "T", "P", "H"]

/-- The longest text of a list, with its position, that starts another text, and what follows
it. -/
def longestStart? (letters : List String) (name : List Char) : Option (Nat × List Char) :=
  let found := letters.zipIdx.filterMap fun (letter, i) =>
    (afterStart? letter.toList name).map fun rest => (i, rest)
  found.foldl (fun best x =>
    match best with
    | none => some x
    | some y => if x.2.length < y.2.length then some x else some y) none

def hangulSyllable? (name : List Char) : Option Nat := do
  let name ← afterStart? "HANGUL SYLLABLE ".toList name
  let (leading, name) ← longestStart? leadingLetters name
  let (vowel, name) ← longestStart? vowelLetters name
  let (trailing, name) ← longestStart? trailingLetters name
  if name.isEmpty then some (0xac00 + (leading * 21 + vowel) * 28 + trailing) else none

def characterNamed? (name : List Char) : Option Nat :=
  ideograph? name <|> hangulSyllable? name <|> tabulated? name

end DeviceTrust.Text
