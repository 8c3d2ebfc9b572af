/-
  Characters by name.

  The names are those of the Latin, the Greek and the
  currency blocks and of general punctuation, with the
  further names that control characters and blanks have.
  Small and capital letters are the same in a name.

  Key definitions include:
    * `SqlAudit.Text.charNames`
    * `SqlAudit.Text.charNamed?`
-/

------------------------------------------------------------
-- Names
------------------------------------------------------------

namespace SqlAudit.Text

/- Names of control characters and blanks. -/
def controlNames : List (Nat × String) :=
  [ (0x00, "NULL"),
    (0x00, "NUL"),
    (0x01, "START OF HEADING"),
    (0x01, "SOH"),
    (0x02, "START OF TEXT"),
    (0x02, "STX"),
    (0x03, "END OF TEXT"),
    (0x03, "ETX"),
    (0x04, "END OF TRANSMISSION"),
    (0x04, "EOT"),
    (0x05, "ENQUIRY"),
    (0x05, "ENQ"),
    (0x06, "ACKNOWLEDGE"),
    (0x06, "ACK"),
    (0x07, "ALERT"),
    (0x07, "BEL"),
    (0x08, "BACKSPACE"),
    (0x08, "BS"),
    (0x09, "CHARACTER TABULATION"),
    (0x09, "HORIZONTAL TABULATION"),
    (0x09, "HT"),
    (0x09, "TAB"),
    (0x0a, "LINE FEED"),
    (0x0a, "NEW LINE"),
    (0x0a, "END OF LINE"),
    (0x0a, "LF"),
    (0x0a, "NL"),
    (0x0a, "EOL"),
    (0x0b, "LINE TABULATION"),
    (0x0b, "VERTICAL TABULATION"),
    (0x0b, "VT"),
    (0x0c, "FORM FEED"),
    (0x0c, "FF"),
    (0x0d, "CARRIAGE RETURN"),
    (0x0d, "CR"),
    (0x0e, "SHIFT OUT"),
    (0x0e, "LOCKING-SHIFT ONE"),
    (0x0e, "SO"),
    (0x0f, "SHIFT IN"),
    (0x0f, "LOCKING-SHIFT ZERO"),
    (0x0f, "SI"),
    (0x10, "DATA LINK ESCAPE"),
    (0x10, "DLE"),
    (0x11, "DEVICE CONTROL ONE"),
    (0x11, "DC1"),
    (0x12, "DEVICE CONTROL TWO"),
    (0x12, "DC2"),
    (0x13, "DEVICE CONTROL THREE"),
    (0x13, "DC3"),
    (0x14, "DEVICE CONTROL FOUR"),
    (0x14, "DC4"),
    (0x15, "NEGATIVE ACKNOWLEDGE"),
    (0x15, "NAK"),
    (0x16, "SYNCHRONOUS IDLE"),
    (0x16, "SYN"),
    (0x17, "END OF TRANSMISSION BLOCK"),
    (0x17, "ETB"),
    (0x18, "CANCEL"),
    (0x18, "CAN"),
    (0x19, "END OF MEDIUM"),
    (0x19, "EOM"),
    (0x1a, "SUBSTITUTE"),
    (0x1a, "SUB"),
    (0x1b, "ESCAPE"),
    (0x1b, "ESC"),
    (0x1c, "INFORMATION SEPARATOR FOUR"),
    (0x1c, "FILE SEPARATOR"),
    (0x1c, "FS"),
    (0x1d, "INFORMATION SEPARATOR THREE"),
    (0x1d, "GROUP SEPARATOR"),
    (0x1d, "GS"),
    (0x1e, "INFORMATION SEPARATOR TWO"),
    (0x1e, "RECORD SEPARATOR"),
    (0x1e, "RS"),
    (0x1f, "INFORMATION SEPARATOR ONE"),
    (0x1f, "UNIT SEPARATOR"),
    (0x1f, "US"),
    (0x20, "SP"),
    (0x7f, "DELETE"),
    (0x7f, "DEL"),
    (0x80, "PADDING CHARACTER"),
    (0x80, "PAD"),
    (0x81, "HIGH OCTET PRESET"),
    (0x81, "HOP"),
    (0x82, "BREAK PERMITTED HERE"),
    (0x82, "BPH"),
    (0x83, "NO BREAK HERE"),
    (0x83, "NBH"),
    (0x84, "INDEX"),
    (0x84, "IND"),
    (0x85, "NEXT LINE"),
    (0x85, "NEL"),
    (0x86, "START OF SELECTED AREA"),
    (0x86, "SSA"),
    (0x87, "END OF SELECTED AREA"),
    (0x87, "ESA"),
    (0x88, "CHARACTER TABULATION SET"),
    (0x88, "HORIZONTAL TABULATION SET"),
    (0x88, "HTS"),
    (0x89, "CHARACTER TABULATION WITH JUSTIFICATION"),
    (0x89, "HORIZONTAL TABULATION WITH JUSTIFICATION"),
    (0x89, "HTJ"),
    (0x8a, "LINE TABULATION SET"),
    (0x8a, "VERTICAL TABULATION SET"),
    (0x8a, "VTS"),
    (0x8b, "PARTIAL LINE FORWARD"),
    (0x8b, "PARTIAL LINE DOWN"),
    (0x8b, "PLD"),
    (0x8c, "PARTIAL LINE BACKWARD"),
    (0x8c, "PARTIAL LINE UP"),
    (0x8c, "PLU"),
    (0x8d, "REVERSE LINE FEED"),
    (0x8d, "REVERSE INDEX"),
    (0x8d, "RI"),
    (0x8e, "SINGLE SHIFT TWO"),
    (0x8e, "SINGLE-SHIFT-2"),
    (0x8e, "SS2"),
    (0x8f, "SINGLE SHIFT THREE"),
    (0x8f, "SINGLE-SHIFT-3"),
    (0x8f, "SS3"),
    (0x90, "DEVICE CONTROL STRING"),
    (0x90, "DCS"),
    (0x91, "PRIVATE USE ONE"),
    (0x91, "PRIVATE USE-1"),
    (0x91, "PU1"),
    (0x92, "PRIVATE USE TWO"),
    (0x92, "PRIVATE USE-2"),
    (0x92, "PU2"),
    (0x93, "SET TRANSMIT STATE"),
    (0x93, "STS"),
    (0x94, "CANCEL CHARACTER"),
    (0x94, "CCH"),
    (0x95, "MESSAGE WAITING"),
    (0x95, "MW"),
    (0x96, "START OF GUARDED AREA"),
    (0x96, "START OF PROTECTED AREA"),
    (0x96, "SPA"),
    (0x97, "END OF GUARDED AREA"),
    (0x97, "END OF PROTECTED AREA"),
    (0x97, "EPA"),
    (0x98, "START OF STRING"),
    (0x98, "SOS"),
    (0x99, "SINGLE GRAPHIC CHARACTER INTRODUCER"),
    (0x99, "SGC"),
    (0x9a, "SINGLE CHARACTER INTRODUCER"),
    (0x9a, "SCI"),
    (0x9b, "CONTROL SEQUENCE INTRODUCER"),
    (0x9b, "CSI"),
    (0x9c, "STRING TERMINATOR"),
    (0x9c, "ST"),
    (0x9d, "OPERATING SYSTEM COMMAND"),
    (0x9d, "OSC"),
    (0x9e, "PRIVACY MESSAGE"),
    (0x9e, "PM"),
    (0x9f, "APPLICATION PROGRAM COMMAND"),
    (0x9f, "APC"),
    (0xa0, "NBSP"),
    (0xad, "SHY"),
    (0x200b, "ZWSP"),
    (0x200c, "ZWNJ"),
    (0x200d, "ZWJ"),
    (0x200e, "LRM"),
    (0x200f, "RLM"),
    (0x202a, "LRE"),
    (0x202b, "RLE"),
    (0x202c, "PDF"),
    (0x202d, "LRO"),
    (0x202e, "RLO"),
    (0x202f, "NNBSP"),
    (0x205f, "MMSP"),
    (0x2060, "WJ"),
    (0x2066, "LRI"),
    (0x2067, "RLI"),
    (0x2068, "FSI"),
    (0x2069, "PDI") ]

/- Names of the ASCII characters. -/
def basicLatinNames : List (Nat × String) :=
  [ (0x20, "SPACE"),
    (0x21, "EXCLAMATION MARK"),
    (0x22, "QUOTATION MARK"),
    (0x23, "NUMBER SIGN"),
    (0x24, "DOLLAR SIGN"),
    (0x25, "PERCENT SIGN"),
    (0x26, "AMPERSAND"),
    (0x27, "APOSTROPHE"),
    (0x28, "LEFT PARENTHESIS"),
    (0x29, "RIGHT PARENTHESIS"),
    (0x2a, "ASTERISK"),
    (0x2b, "PLUS SIGN"),
    (0x2c, "COMMA"),
    (0x2d, "HYPHEN-MINUS"),
    (0x2e, "FULL STOP"),
    (0x2f, "SOLIDUS"),
    (0x30, "DIGIT ZERO"),
    (0x31, "DIGIT ONE"),
    (0x32, "DIGIT TWO"),
    (0x33, "DIGIT THREE"),
    (0x34, "DIGIT FOUR"),
    (0x35, "DIGIT FIVE"),
    (0x36, "DIGIT SIX"),
    (0x37, "DIGIT SEVEN"),
    (0x38, "DIGIT EIGHT"),
    (0x39, "DIGIT NINE"),
    (0x3a, "COLON"),
    (0x3b, "SEMICOLON"),
    (0x3c, "LESS-THAN SIGN"),
    (0x3d, "EQUALS SIGN"),
    (0x3e, "GREATER-THAN SIGN"),
    (0x3f, "QUESTION MARK"),
    (0x40, "COMMERCIAL AT"),
    (0x41, "LATIN CAPITAL LETTER A"),
    (0x42, "LATIN CAPITAL LETTER B"),
    (0x43, "LATIN CAPITAL LETTER C"),
    (0x44, "LATIN CAPITAL LETTER D"),
    (0x45, "LATIN CAPITAL LETTER E"),
    (0x46, "LATIN CAPITAL LETTER F"),
    (0x47, "LATIN CAPITAL LETTER G"),
    (0x48, "LATIN CAPITAL LETTER H"),
    (0x49, "LATIN CAPITAL LETTER I"),
    (0x4a, "LATIN CAPITAL LETTER J"),
    (0x4b, "LATIN CAPITAL LETTER K"),
    (0x4c, "LATIN CAPITAL LETTER L"),
    (0x4d, "LATIN CAPITAL LETTER M"),
    (0x4e, "LATIN CAPITAL LETTER N"),
    (0x4f, "LATIN CAPITAL LETTER O"),
    (0x50, "LATIN CAPITAL LETTER P"),
    (0x51, "LATIN CAPITAL LETTER Q"),
    (0x52, "LATIN CAPITAL LETTER R"),
    (0x53, "LATIN CAPITAL LETTER S"),
    (0x54, "LATIN CAPITAL LETTER T"),
    (0x55, "LATIN CAPITAL LETTER U"),
    (0x56, "LATIN CAPITAL LETTER V"),
    (0x57, "LATIN CAPITAL LETTER W"),
    (0x58, "LATIN CAPITAL LETTER X"),
    (0x59, "LATIN CAPITAL LETTER Y"),
    (0x5a, "LATIN CAPITAL LETTER Z"),
    (0x5b, "LEFT SQUARE BRACKET"),
    (0x5c, "REVERSE SOLIDUS"),
    (0x5d, "RIGHT SQUARE BRACKET"),
    (0x5e, "CIRCUMFLEX ACCENT"),
    (0x5f, "LOW LINE"),
    (0x60, "GRAVE ACCENT"),
    (0x61, "LATIN SMALL LETTER A"),
    (0x62, "LATIN SMALL LETTER B"),
    (0x63, "LATIN SMALL LETTER C"),
    (0x64, "LATIN SMALL LETTER D"),
    (0x65, "LATIN SMALL LETTER E"),
    (0x66, "LATIN SMALL LETTER F"),
    (0x67, "LATIN SMALL LETTER G"),
    (0x68, "LATIN SMALL LETTER H"),
    (0x69, "LATIN SMALL LETTER I"),
    (0x6a, "LATIN SMALL LETTER J"),
    (0x6b, "LATIN SMALL LETTER K"),
    (0x6c, "LATIN SMALL LETTER L"),
    (0x6d, "LATIN SMALL LETTER M"),
    (0x6e, "LATIN SMALL LETTER N"),
    (0x6f, "LATIN SMALL LETTER O"),
    (0x70, "LATIN SMALL LETTER P"),
    (0x71, "LATIN SMALL LETTER Q"),
    (0x72, "LATIN SMALL LETTER R"),
    (0x73, "LATIN SMALL LETTER S"),
    (0x74, "LATIN SMALL LETTER T"),
    (0x75, "LATIN SMALL LETTER U"),
    (0x76, "LATIN SMALL LETTER V"),
    (0x77, "LATIN SMALL LETTER W"),
    (0x78, "LATIN SMALL LETTER X"),
    (0x79, "LATIN SMALL LETTER Y"),
    (0x7a, "LATIN SMALL LETTER Z"),
    (0x7b, "LEFT CURLY BRACKET"),
    (0x7c, "VERTICAL LINE"),
    (0x7d, "RIGHT CURLY BRACKET"),
    (0x7e, "TILDE") ]

/- Names of the Latin-1 characters. -/
def latinSupplementNames : List (Nat × String) :=
  [ (0xa0, "NO-BREAK SPACE"),
    (0xa1, "INVERTED EXCLAMATION MARK"),
    (0xa2, "CENT SIGN"),
    (0xa3, "POUND SIGN"),
    (0xa4, "CURRENCY SIGN"),
    (0xa5, "YEN SIGN"),
    (0xa6, "BROKEN BAR"),
    (0xa7, "SECTION SIGN"),
    (0xa8, "DIAERESIS"),
    (0xa9, "COPYRIGHT SIGN"),
    (0xaa, "FEMININE ORDINAL INDICATOR"),
    (0xab, "LEFT-POINTING DOUBLE ANGLE QUOTATION MARK"),
    (0xac, "NOT SIGN"),
    (0xad, "SOFT HYPHEN"),
    (0xae, "REGISTERED SIGN"),
    (0xaf, "MACRON"),
    (0xb0, "DEGREE SIGN"),
    (0xb1, "PLUS-MINUS SIGN"),
    (0xb2, "SUPERSCRIPT TWO"),
    (0xb3, "SUPERSCRIPT THREE"),
    (0xb4, "ACUTE ACCENT"),
    (0xb5, "MICRO SIGN"),
    (0xb6, "PILCROW SIGN"),
    (0xb7, "MIDDLE DOT"),
    (0xb8, "CEDILLA"),
    (0xb9, "SUPERSCRIPT ONE"),
    (0xba, "MASCULINE ORDINAL INDICATOR"),
    (0xbb, "RIGHT-POINTING DOUBLE ANGLE QUOTATION MARK"),
    (0xbc, "VULGAR FRACTION ONE QUARTER"),
    (0xbd, "VULGAR FRACTION ONE HALF"),
    (0xbe, "VULGAR FRACTION THREE QUARTERS"),
    (0xbf, "INVERTED QUESTION MARK"),
    (0xc0, "LATIN CAPITAL LETTER A WITH GRAVE"),
    (0xc1, "LATIN CAPITAL LETTER A WITH ACUTE"),
    (0xc2, "LATIN CAPITAL LETTER A WITH CIRCUMFLEX"),
    (0xc3, "LATIN CAPITAL LETTER A WITH TILDE"),
    (0xc4, "LATIN CAPITAL LETTER A WITH DIAERESIS"),
    (0xc5, "LATIN CAPITAL LETTER A WITH RING ABOVE"),
    (0xc6, "LATIN CAPITAL LETTER AE"),
    (0xc7, "LATIN CAPITAL LETTER C WITH CEDILLA"),
    (0xc8, "LATIN CAPITAL LETTER E WITH GRAVE"),
    (0xc9, "LATIN CAPITAL LETTER E WITH ACUTE"),
    (0xca, "LATIN CAPITAL LETTER E WITH CIRCUMFLEX"),
    (0xcb, "LATIN CAPITAL LETTER E WITH DIAERESIS"),
    (0xcc, "LATIN CAPITAL LETTER I WITH GRAVE"),
    (0xcd, "LATIN CAPITAL LETTER I WITH ACUTE"),
    (0xce, "LATIN CAPITAL LETTER I WITH CIRCUMFLEX"),
    (0xcf, "LATIN CAPITAL LETTER I WITH DIAERESIS"),
    (0xd0, "LATIN CAPITAL LETTER ETH"),
    (0xd1, "LATIN CAPITAL LETTER N WITH TILDE"),
    (0xd2, "LATIN CAPITAL LETTER O WITH GRAVE"),
    (0xd3, "LATIN CAPITAL LETTER O WITH ACUTE"),
    (0xd4, "LATIN CAPITAL LETTER O WITH CIRCUMFLEX"),
    (0xd5, "LATIN CAPITAL LETTER O WITH TILDE"),
    (0xd6, "LATIN CAPITAL LETTER O WITH DIAERESIS"),
    (0xd7, "MULTIPLICATION SIGN"),
    (0xd8, "LATIN CAPITAL LETTER O WITH STROKE"),
    (0xd9, "LATIN CAPITAL LETTER U WITH GRAVE"),
    (0xda, "LATIN CAPITAL LETTER U WITH ACUTE"),
    (0xdb, "LATIN CAPITAL LETTER U WITH CIRCUMFLEX"),
    (0xdc, "LATIN CAPITAL LETTER U WITH DIAERESIS"),
    (0xdd, "LATIN CAPITAL LETTER Y WITH ACUTE"),
    (0xde, "LATIN CAPITAL LETTER THORN"),
    (0xdf, "LATIN SMALL LETTER SHARP S"),
    (0xe0, "LATIN SMALL LETTER A WITH GRAVE"),
    (0xe1, "LATIN SMALL LETTER A WITH ACUTE"),
    (0xe2, "LATIN SMALL LETTER A WITH CIRCUMFLEX"),
    (0xe3, "LATIN SMALL LETTER A WITH TILDE"),
    (0xe4, "LATIN SMALL LETTER A WITH DIAERESIS"),
    (0xe5, "LATIN SMALL LETTER A WITH RING ABOVE"),
    (0xe6, "LATIN SMALL LETTER AE"),
    (0xe7, "LATIN SMALL LETTER C WITH CEDILLA"),
    (0xe8, "LATIN SMALL LETTER E WITH GRAVE"),
    (0xe9, "LATIN SMALL LETTER E WITH ACUTE"),
    (0xea, "LATIN SMALL LETTER E WITH CIRCUMFLEX"),
    (0xeb, "LATIN SMALL LETTER E WITH DIAERESIS"),
    (0xec, "LATIN SMALL LETTER I WITH GRAVE"),
    (0xed, "LATIN SMALL LETTER I WITH ACUTE"),
    (0xee, "LATIN SMALL LETTER I WITH CIRCUMFLEX"),
    (0xef, "LATIN SMALL LETTER I WITH DIAERESIS"),
    (0xf0, "LATIN SMALL LETTER ETH"),
    (0xf1, "LATIN SMALL LETTER N WITH TILDE"),
    (0xf2, "LATIN SMALL LETTER O WITH GRAVE"),
    (0xf3, "LATIN SMALL LETTER O WITH ACUTE"),
    (0xf4, "LATIN SMALL LETTER O WITH CIRCUMFLEX"),
    (0xf5, "LATIN SMALL LETTER O WITH TILDE"),
    (0xf6, "LATIN SMALL LETTER O WITH DIAERESIS"),
    (0xf7, "DIVISION SIGN"),
    (0xf8, "LATIN SMALL LETTER O WITH STROKE"),
    (0xf9, "LATIN SMALL LETTER U WITH GRAVE"),
    (0xfa, "LATIN SMALL LETTER U WITH ACUTE"),
    (0xfb, "LATIN SMALL LETTER U WITH CIRCUMFLEX"),
    (0xfc, "LATIN SMALL LETTER U WITH DIAERESIS"),
    (0xfd, "LATIN SMALL LETTER Y WITH ACUTE"),
    (0xfe, "LATIN SMALL LETTER THORN"),
    (0xff, "LATIN SMALL LETTER Y WITH DIAERESIS") ]

/- Names of the Greek and Coptic letters. -/
def greekNames : List (Nat × String) :=
  [ (0x370, "GREEK CAPITAL LETTER HETA"),
    (0x371, "GREEK SMALL LETTER HETA"),
    (0x372, "GREEK CAPITAL LETTER ARCHAIC SAMPI"),
    (0x373, "GREEK SMALL LETTER ARCHAIC SAMPI"),
    (0x374, "GREEK NUMERAL SIGN"),
    (0x375, "GREEK LOWER NUMERAL SIGN"),
    (0x376, "GREEK CAPITAL LETTER PAMPHYLIAN DIGAMMA"),
    (0x377, "GREEK SMALL LETTER PAMPHYLIAN DIGAMMA"),
    (0x37a, "GREEK YPOGEGRAMMENI"),
    (0x37b, "GREEK SMALL REVERSED LUNATE SIGMA SYMBOL"),
    (0x37c, "GREEK SMALL DOTTED LUNATE SIGMA SYMBOL"),
    (0x37d, "GREEK SMALL REVERSED DOTTED LUNATE SIGMA SYMBOL"),
    (0x37e, "GREEK QUESTION MARK"),
    (0x37f, "GREEK CAPITAL LETTER YOT"),
    (0x384, "GREEK TONOS"),
    (0x385, "GREEK DIALYTIKA TONOS"),
    (0x386, "GREEK CAPITAL LETTER ALPHA WITH TONOS"),
    (0x387, "GREEK ANO TELEIA"),
    (0x388, "GREEK CAPITAL LETTER EPSILON WITH TONOS"),
    (0x389, "GREEK CAPITAL LETTER ETA WITH TONOS"),
    (0x38a, "GREEK CAPITAL LETTER IOTA WITH TONOS"),
    (0x38c, "GREEK CAPITAL LETTER OMICRON WITH TONOS"),
    (0x38e, "GREEK CAPITAL LETTER UPSILON WITH TONOS"),
    (0x38f, "GREEK CAPITAL LETTER OMEGA WITH TONOS"),
    (0x390, "GREEK SMALL LETTER IOTA WITH DIALYTIKA AND TONOS"),
    (0x391, "GREEK CAPITAL LETTER ALPHA"),
    (0x392, "GREEK CAPITAL LETTER BETA"),
    (0x393, "GREEK CAPITAL LETTER GAMMA"),
    (0x394, "GREEK CAPITAL LETTER DELTA"),
    (0x395, "GREEK CAPITAL LETTER EPSILON"),
    (0x396, "GREEK CAPITAL LETTER ZETA"),
    (0x397, "GREEK CAPITAL LETTER ETA"),
    (0x398, "GREEK CAPITAL LETTER THETA"),
    (0x399, "GREEK CAPITAL LETTER IOTA"),
    (0x39a, "GREEK CAPITAL LETTER KAPPA"),
    (0x39b, "GREEK CAPITAL LETTER LAMDA"),
    (0x39c, "GREEK CAPITAL LETTER MU"),
    (0x39d, "GREEK CAPITAL LETTER NU"),
    (0x39e, "GREEK CAPITAL LETTER XI"),
    (0x39f, "GREEK CAPITAL LETTER OMICRON"),
    (0x3a0, "GREEK CAPITAL LETTER PI"),
    (0x3a1, "GREEK CAPITAL LETTER RHO"),
    (0x3a3, "GREEK CAPITAL LETTER SIGMA"),
    (0x3a4, "GREEK CAPITAL LETTER TAU"),
    (0x3a5, "GREEK CAPITAL LETTER UPSILON"),
    (0x3a6, "GREEK CAPITAL LETTER PHI"),
    (0x3a7, "GREEK CAPITAL LETTER CHI"),
    (0x3a8, "GREEK CAPITAL LETTER PSI"),
    (0x3a9, "GREEK CAPITAL LETTER OMEGA"),
    (0x3aa, "GREEK CAPITAL LETTER IOTA WITH DIALYTIKA"),
    (0x3ab, "GREEK CAPITAL LETTER UPSILON WITH DIALYTIKA"),
    (0x3ac, "GREEK SMALL LETTER ALPHA WITH TONOS"),
    (0x3ad, "GREEK SMALL LETTER EPSILON WITH TONOS"),
    (0x3ae, "GREEK SMALL LETTER ETA WITH TONOS"),
    (0x3af, "GREEK SMALL LETTER IOTA WITH TONOS"),
    (0x3b0, "GREEK SMALL LETTER UPSILON WITH DIALYTIKA AND TONOS"),
    (0x3b1, "GREEK SMALL LETTER ALPHA"),
    (0x3b2, "GREEK SMALL LETTER BETA"),
    (0x3b3, "GREEK SMALL LETTER GAMMA"),
    (0x3b4, "GREEK SMALL LETTER DELTA"),
    (0x3b5, "GREEK SMALL LETTER EPSILON"),
    (0x3b6, "GREEK SMALL LETTER ZETA"),
    (0x3b7, "GREEK SMALL LETTER ETA"),
    (0x3b8, "GREEK SMALL LETTER THETA"),
    (0x3b9, "GREEK SMALL LETTER IOTA"),
    (0x3ba, "GREEK SMALL LETTER KAPPA"),
    (0x3bb, "GREEK SMALL LETTER LAMDA"),
    (0x3bc, "GREEK SMALL LETTER MU"),
    (0x3bd, "GREEK SMALL LETTER NU"),
    (0x3be, "GREEK SMALL LETTER XI"),
    (0x3bf, "GREEK SMALL LETTER OMICRON"),
    (0x3c0, "GREEK SMALL LETTER PI"),
    (0x3c1, "GREEK SMALL LETTER RHO"),
    (0x3c2, "GREEK SMALL LETTER FINAL SIGMA"),
    (0x3c3, "GREEK SMALL LETTER SIGMA"),
    (0x3c4, "GREEK SMALL LETTER TAU"),
    (0x3c5, "GREEK SMALL LETTER UPSILON"),
    (0x3c6, "GREEK SMALL LETTER PHI"),
    (0x3c7, "GREEK SMALL LETTER CHI"),
    (0x3c8, "GREEK SMALL LETTER PSI"),
    (0x3c9, "GREEK SMALL LETTER OMEGA"),
    (0x3ca, "GREEK SMALL LETTER IOTA WITH DIALYTIKA"),
    (0x3cb, "GREEK SMALL LETTER UPSILON WITH DIALYTIKA"),
    (0x3cc, "GREEK SMALL LETTER OMICRON WITH TONOS"),
    (0x3cd, "GREEK SMALL LETTER UPSILON WITH TONOS"),
    (0x3ce, "GREEK SMALL LETTER OMEGA WITH TONOS"),
    (0x3cf, "GREEK CAPITAL KAI SYMBOL"),
    (0x3d0, "GREEK BETA SYMBOL"),
    (0x3d1, "GREEK THETA SYMBOL"),
    (0x3d2, "GREEK UPSILON WITH HOOK SYMBOL"),
    (0x3d3, "GREEK UPSILON WITH ACUTE AND HOOK SYMBOL"),
    (0x3d4, "GREEK UPSILON WITH DIAERESIS AND HOOK SYMBOL"),
    (0x3d5, "GREEK PHI SYMBOL"),
    (0x3d6, "GREEK PI SYMBOL"),
    (0x3d7, "GREEK KAI SYMBOL"),
    (0x3d8, "GREEK LETTER ARCHAIC KOPPA"),
    (0x3d9, "GREEK SMALL LETTER ARCHAIC KOPPA"),
    (0x3da, "GREEK LETTER STIGMA"),
    (0x3db, "GREEK SMALL LETTER STIGMA"),
    (0x3dc, "GREEK LETTER DIGAMMA"),
    (0x3dd, "GREEK SMALL LETTER DIGAMMA"),
    (0x3de, "GREEK LETTER KOPPA"),
    (0x3df, "GREEK SMALL LETTER KOPPA"),
    (0x3e0, "GREEK LETTER SAMPI"),
    (0x3e1, "GREEK SMALL LETTER SAMPI"),
    (0x3e2, "COPTIC CAPITAL LETTER SHEI"),
    (0x3e3, "COPTIC SMALL LETTER SHEI"),
    (0x3e4, "COPTIC CAPITAL LETTER FEI"),
    (0x3e5, "COPTIC SMALL LETTER FEI"),
    (0x3e6, "COPTIC CAPITAL LETTER KHEI"),
    (0x3e7, "COPTIC SMALL LETTER KHEI"),
    (0x3e8, "COPTIC CAPITAL LETTER HORI"),
    (0x3e9, "COPTIC SMALL LETTER HORI"),
    (0x3ea, "COPTIC CAPITAL LETTER GANGIA"),
    (0x3eb, "COPTIC SMALL LETTER GANGIA"),
    (0x3ec, "COPTIC CAPITAL LETTER SHIMA"),
    (0x3ed, "COPTIC SMALL LETTER SHIMA"),
    (0x3ee, "COPTIC CAPITAL LETTER DEI"),
    (0x3ef, "COPTIC SMALL LETTER DEI"),
    (0x3f0, "GREEK KAPPA SYMBOL"),
    (0x3f1, "GREEK RHO SYMBOL"),
    (0x3f2, "GREEK LUNATE SIGMA SYMBOL"),
    (0x3f3, "GREEK LETTER YOT"),
    (0x3f4, "GREEK CAPITAL THETA SYMBOL"),
    (0x3f5, "GREEK LUNATE EPSILON SYMBOL"),
    (0x3f6, "GREEK REVERSED LUNATE EPSILON SYMBOL"),
    (0x3f7, "GREEK CAPITAL LETTER SHO"),
    (0x3f8, "GREEK SMALL LETTER SHO"),
    (0x3f9, "GREEK CAPITAL LUNATE SIGMA SYMBOL"),
    (0x3fa, "GREEK CAPITAL LETTER SAN"),
    (0x3fb, "GREEK SMALL LETTER SAN"),
    (0x3fc, "GREEK RHO WITH STROKE SYMBOL"),
    (0x3fd, "GREEK CAPITAL REVERSED LUNATE SIGMA SYMBOL"),
    (0x3fe, "GREEK CAPITAL DOTTED LUNATE SIGMA SYMBOL"),
    (0x3ff, "GREEK CAPITAL REVERSED DOTTED LUNATE SIGMA SYMBOL") ]

/- Names of the general punctuation marks. -/
def punctuationNames : List (Nat × String) :=
  [ (0x2000, "EN QUAD"),
    (0x2001, "EM QUAD"),
    (0x2002, "EN SPACE"),
    (0x2003, "EM SPACE"),
    (0x2004, "THREE-PER-EM SPACE"),
    (0x2005, "FOUR-PER-EM SPACE"),
    (0x2006, "SIX-PER-EM SPACE"),
    (0x2007, "FIGURE SPACE"),
    (0x2008, "PUNCTUATION SPACE"),
    (0x2009, "THIN SPACE"),
    (0x200a, "HAIR SPACE"),
    (0x200b, "ZERO WIDTH SPACE"),
    (0x200c, "ZERO WIDTH NON-JOINER"),
    (0x200d, "ZERO WIDTH JOINER"),
    (0x200e, "LEFT-TO-RIGHT MARK"),
    (0x200f, "RIGHT-TO-LEFT MARK"),
    (0x2010, "HYPHEN"),
    (0x2011, "NON-BREAKING HYPHEN"),
    (0x2012, "FIGURE DASH"),
    (0x2013, "EN DASH"),
    (0x2014, "EM DASH"),
    (0x2015, "HORIZONTAL BAR"),
    (0x2016, "DOUBLE VERTICAL LINE"),
    (0x2017, "DOUBLE LOW LINE"),
    (0x2018, "LEFT SINGLE QUOTATION MARK"),
    (0x2019, "RIGHT SINGLE QUOTATION MARK"),
    (0x201a, "SINGLE LOW-9 QUOTATION MARK"),
    (0x201b, "SINGLE HIGH-REVERSED-9 QUOTATION MARK"),
    (0x201c, "LEFT DOUBLE QUOTATION MARK"),
    (0x201d, "RIGHT DOUBLE QUOTATION MARK"),
    (0x201e, "DOUBLE LOW-9 QUOTATION MARK"),
    (0x201f, "DOUBLE HIGH-REVERSED-9 QUOTATION MARK"),
    (0x2020, "DAGGER"),
    (0x2021, "DOUBLE DAGGER"),
    (0x2022, "BULLET"),
    (0x2023, "TRIANGULAR BULLET"),
    (0x2024, "ONE DOT LEADER"),
    (0x2025, "TWO DOT LEADER"),
    (0x2026, "HORIZONTAL ELLIPSIS"),
    (0x2027, "HYPHENATION POINT"),
    (0x2028, "LINE SEPARATOR"),
    (0x2029, "PARAGRAPH SEPARATOR"),
    (0x202a, "LEFT-TO-RIGHT EMBEDDING"),
    (0x202b, "RIGHT-TO-LEFT EMBEDDING"),
    (0x202c, "POP DIRECTIONAL FORMATTING"),
    (0x202d, "LEFT-TO-RIGHT OVERRIDE"),
    (0x202e, "RIGHT-TO-LEFT OVERRIDE"),
    (0x202f, "NARROW NO-BREAK SPACE"),
    (0x2030, "PER MILLE SIGN"),
    (0x2031, "PER TEN THOUSAND SIGN"),
    (0x2032, "PRIME"),
    (0x2033, "DOUBLE PRIME"),
    (0x2034, "TRIPLE PRIME"),
    (0x2035, "REVERSED PRIME"),
    (0x2036, "REVERSED DOUBLE PRIME"),
    (0x2037, "REVERSED TRIPLE PRIME"),
    (0x2038, "CARET"),
    (0x2039, "SINGLE LEFT-POINTING ANGLE QUOTATION MARK"),
    (0x203a, "SINGLE RIGHT-POINTING ANGLE QUOTATION MARK"),
    (0x203b, "REFERENCE MARK"),
    (0x203c, "DOUBLE EXCLAMATION MARK"),
    (0x203d, "INTERROBANG"),
    (0x203e, "OVERLINE"),
    (0x203f, "UNDERTIE"),
    (0x2040, "CHARACTER TIE"),
    (0x2041, "CARET INSERTION POINT"),
    (0x2042, "ASTERISM"),
    (0x2043, "HYPHEN BULLET"),
    (0x2044, "FRACTION SLASH"),
    (0x2045, "LEFT SQUARE BRACKET WITH QUILL"),
    (0x2046, "RIGHT SQUARE BRACKET WITH QUILL"),
    (0x2047, "DOUBLE QUESTION MARK"),
    (0x2048, "QUESTION EXCLAMATION MARK"),
    (0x2049, "EXCLAMATION QUESTION MARK"),
    (0x204a, "TIRONIAN SIGN ET"),
    (0x204b, "REVERSED PILCROW SIGN"),
    (0x204c, "BLACK LEFTWARDS BULLET"),
    (0x204d, "BLACK RIGHTWARDS BULLET"),
    (0x204e, "LOW ASTERISK"),
    (0x204f, "REVERSED SEMICOLON"),
    (0x2050, "CLOSE UP"),
    (0x2051, "TWO ASTERISKS ALIGNED VERTICALLY"),
    (0x2052, "COMMERCIAL MINUS SIGN"),
    (0x2053, "SWUNG DASH"),
    (0x2054, "INVERTED UNDERTIE"),
    (0x2055, "FLOWER PUNCTUATION MARK"),
    (0x2056, "THREE DOT PUNCTUATION"),
    (0x2057, "QUADRUPLE PRIME"),
    (0x2058, "FOUR DOT PUNCTUATION"),
    (0x2059, "FIVE DOT PUNCTUATION"),
    (0x205a, "TWO DOT PUNCTUATION"),
    (0x205b, "FOUR DOT MARK"),
    (0x205c, "DOTTED CROSS"),
    (0x205d, "TRICOLON"),
    (0x205e, "VERTICAL FOUR DOTS"),
    (0x205f, "MEDIUM MATHEMATICAL SPACE"),
    (0x2060, "WORD JOINER"),
    (0x2061, "FUNCTION APPLICATION"),
    (0x2062, "INVISIBLE TIMES"),
    (0x2063, "INVISIBLE SEPARATOR"),
    (0x2064, "INVISIBLE PLUS"),
    (0x2066, "LEFT-TO-RIGHT ISOLATE"),
    (0x2067, "RIGHT-TO-LEFT ISOLATE"),
    (0x2068, "FIRST STRONG ISOLATE"),
    (0x2069, "POP DIRECTIONAL ISOLATE"),
    (0x206a, "INHIBIT SYMMETRIC SWAPPING"),
    (0x206b, "ACTIVATE SYMMETRIC SWAPPING"),
    (0x206c, "INHIBIT ARABIC FORM SHAPING"),
    (0x206d, "ACTIVATE ARABIC FORM SHAPING"),
    (0x206e, "NATIONAL DIGIT SHAPES"),
    (0x206f, "NOMINAL DIGIT SHAPES") ]

/- Names of the currency symbols. -/
def currencyNames : List (Nat × String) :=
  [ (0x20a0, "EURO-CURRENCY SIGN"),
    (0x20a1, "COLON SIGN"),
    (0x20a2, "CRUZEIRO SIGN"),
    (0x20a3, "FRENCH FRANC SIGN"),
    (0x20a4, "LIRA SIGN"),
    (0x20a5, "MILL SIGN"),
    (0x20a6, "NAIRA SIGN"),
    (0x20a7, "PESETA SIGN"),
    (0x20a8, "RUPEE SIGN"),
    (0x20a9, "WON SIGN"),
    (0x20aa, "NEW SHEQEL SIGN"),
    (0x20ab, "DONG SIGN"),
    (0x20ac, "EURO SIGN"),
    (0x20ad, "KIP SIGN"),
    (0x20ae, "TUGRIK SIGN"),
    (0x20af, "DRACHMA SIGN"),
    (0x20b0, "GERMAN PENNY SIGN"),
    (0x20b1, "PESO SIGN"),
    (0x20b2, "GUARANI SIGN"),
    (0x20b3, "AUSTRAL SIGN"),
    (0x20b4, "HRYVNIA SIGN"),
    (0x20b5, "CEDI SIGN"),
    (0x20b6, "LIVRE TOURNOIS SIGN"),
    (0x20b7, "SPESMILO SIGN"),
    (0x20b8, "TENGE SIGN"),
    (0x20b9, "INDIAN RUPEE SIGN"),
    (0x20ba, "TURKISH LIRA SIGN"),
    (0x20bb, "NORDIC MARK SIGN"),
    (0x20bc, "MANAT SIGN"),
    (0x20bd, "RUBLE SIGN"),
    (0x20be, "LARI SIGN"),
    (0x20bf, "BITCOIN SIGN"),
    (0x20c0, "SOM SIGN") ]

/- All names. -/
def charNames : List (Nat × String) :=
  controlNames ++ basicLatinNames ++
    latinSupplementNames ++
    greekNames ++
    punctuationNames ++
    currencyNames

end SqlAudit.Text

------------------------------------------------------------
-- Finding A Character
------------------------------------------------------------

namespace SqlAudit.Text

/- The character with a name. -/
def charNamed? (name : List Char) : Option Char :=
  let called := name.map Char.toUpper
  (charNames.find? fun entry =>
    entry.2.toList == called).map fun entry =>
      Char.ofNat entry.1

end SqlAudit.Text
