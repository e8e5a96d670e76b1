import EndpointRouting.Text.Property

/-!
# Breaks

What a character is where text is cut into clusters, words and sentences, in Unicode 15.0.
-/

namespace EndpointRouting.Text

def lineFeed : Ranges := [(10, 10)]

def carriageReturn : Ranges := [(13, 13)]

def zeroWidthJoiner : Ranges := [(0x200d, 0x200d)]

/-- Marks that stay with the character before them. -/
def followers : Ranges := extending.union spacingMarks

/-! ### Clusters -/

/-- Control characters but for the line breaks. -/
def clusterControls : Ranges :=
  [(0x0, 0x9), (0xb, 0xc), (0xe, 0x1f), (0x7f, 0x9f), (0xad, 0xad), (0x61c, 0x61c),
    (0x180e, 0x180e), (0x200b, 0x200b), (0x200e, 0x200f), (0x2028, 0x202e), (0x2060, 0x206f),
    (0xfeff, 0xfeff), (0xfff0, 0xfffb), (0x13430, 0x1343f), (0x1bca0, 0x1bca3), (0x1d173, 0x1d17a),
    (0xe0000, 0xe001f), (0xe0080, 0xe00ff), (0xe01f0, 0xe0fff)]

/-- Characters that begin a cluster. -/
def prepended : Ranges :=
  [(0x600, 0x605), (0x6dd, 0x6dd), (0x70f, 0x70f), (0x890, 0x891), (0x8e2, 0x8e2), (0xd4e, 0xd4e),
    (0x110bd, 0x110bd), (0x110cd, 0x110cd), (0x111c2, 0x111c3), (0x1193f, 0x1193f),
    (0x11941, 0x11941), (0x11a3a, 0x11a3a), (0x11a84, 0x11a89), (0x11d46, 0x11d46),
    (0x11f02, 0x11f02)]

/-- Spacing marks that do not belong to the cluster before them. -/
def freeMarks : Ranges :=
  [(0x102b, 0x102c), (0x1038, 0x1038), (0x1062, 0x1064), (0x1067, 0x106d), (0x1083, 0x1083),
    (0x1087, 0x108c), (0x108f, 0x108f), (0x109a, 0x109c), (0x1a61, 0x1a61), (0x1a63, 0x1a64),
    (0xaa7b, 0xaa7b), (0xaa7d, 0xaa7d), (0x11720, 0x11721)]

/-- Spacing marks of a cluster, with two vowels that are letters. -/
def clusterMarks : Ranges :=
  (spacingMarks.minus (extending.union freeMarks)).union [(0xe33, 0xe33), (0xeb3, 0xeb3)]

/-- Hangul syllables without a final consonant. -/
def openSyllables : Ranges := (List.range 399).map fun i => (0xac00 + 28 * i, 0xac00 + 28 * i)

/-- Hangul syllables with a final consonant. -/
def closedSyllables : Ranges := (List.range 399).map fun i => (0xac01 + 28 * i, 0xac1b + 28 * i)

/-- The values of Grapheme_Cluster_Break that characters have, by their names. -/
def graphemeBreaks : NamedRanges :=
  [(["cr"], carriageReturn),
   (["lf"], lineFeed),
   (["cn", "control"], clusterControls),
   (["ex", "extend"], extending.union emojiModifiers),
   (["pp", "prepend"], prepended),
   (["sm", "spacingmark"], clusterMarks),
   (["l"], [(0x1100, 0x115f), (0xa960, 0xa97c)]),
   (["v"], [(0x1160, 0x11a7), (0xd7b0, 0xd7c6)]),
   (["t"], [(0x11a8, 0x11ff), (0xd7cb, 0xd7fb)]),
   (["lv"], openSyllables),
   (["lvt"], closedSyllables),
   (["ri", "regionalindicator"], regionalIndicators),
   (["zwj"], zeroWidthJoiner)]

/-! ### Words -/

/-- Characters that are read as Katakana. -/
def katakana : Ranges :=
  [(0x3031, 0x3035), (0x309b, 0x309c), (0x30a0, 0x30fa), (0x30fc, 0x30ff), (0x31f0, 0x31ff),
    (0x32d0, 0x32fe), (0x3300, 0x3357), (0xff66, 0xff9d), (0x1aff0, 0x1aff3), (0x1aff5, 0x1affb),
    (0x1affd, 0x1affe), (0x1b000, 0x1b000), (0x1b120, 0x1b122), (0x1b155, 0x1b155),
    (0x1b164, 0x1b167)]

def hebrewLetters : Ranges :=
  [(0x5d0, 0x5ea), (0x5ef, 0x5f2), (0xfb1d, 0xfb1d), (0xfb1f, 0xfb28), (0xfb2a, 0xfb36),
    (0xfb38, 0xfb3c), (0xfb3e, 0xfb3e), (0xfb40, 0xfb41), (0xfb43, 0xfb44), (0xfb46, 0xfb4f)]

/-- Letters of scripts that do not put spaces between words. -/
def unspaced : Ranges :=
  [(0xe01, 0xe30), (0xe32, 0xe33), (0xe40, 0xe46), (0xe81, 0xe82), (0xe84, 0xe84), (0xe86, 0xe8a),
    (0xe8c, 0xea3), (0xea5, 0xea5), (0xea7, 0xeb0), (0xeb2, 0xeb3), (0xebd, 0xebd), (0xec0, 0xec4),
    (0xec6, 0xec6), (0xedc, 0xedf), (0x1000, 0x102a), (0x103f, 0x103f), (0x1050, 0x1055),
    (0x105a, 0x105d), (0x1061, 0x1061), (0x1065, 0x1066), (0x106e, 0x1070), (0x1075, 0x1081),
    (0x108e, 0x108e), (0x1780, 0x17b3), (0x17d7, 0x17d7), (0x17dc, 0x17dc), (0x1950, 0x196d),
    (0x1970, 0x1974), (0x1980, 0x19ab), (0x19b0, 0x19c9), (0x1a20, 0x1a54), (0x1aa7, 0x1aa7),
    (0x3041, 0x3096), (0x309d, 0x309f), (0xa9e0, 0xa9e4), (0xa9e6, 0xa9ef), (0xa9fa, 0xa9fe),
    (0xaa60, 0xaa76), (0xaa7a, 0xaa7a), (0xaa7e, 0xaaaf), (0xaab1, 0xaab1), (0xaab5, 0xaab6),
    (0xaab9, 0xaabd), (0xaac0, 0xaac0), (0xaac2, 0xaac2), (0xaadb, 0xaadd), (0x11700, 0x1171a),
    (0x11740, 0x11746), (0x1b001, 0x1b11f), (0x1b132, 0x1b132), (0x1b150, 0x1b152)]

/-- Signs that words may hold as if they were letters. -/
def wordSigns : Ranges :=
  [(0x2c2, 0x2c5), (0x2d2, 0x2d7), (0x2de, 0x2df), (0x2e5, 0x2eb), (0x2ed, 0x2ed), (0x2ef, 0x2ff),
    (0x55a, 0x55c), (0x55e, 0x55e), (0x58a, 0x58a), (0x5f3, 0x5f3), (0xa708, 0xa716),
    (0xa720, 0xa721), (0xa789, 0xa78a), (0xab5b, 0xab5b)]

/-- What a word goes on over. -/
def wordExtending : Ranges := (followers.union emojiModifiers).minus zeroWidthJoiner

/-- Letters of words that spaces part. -/
def wordLetters : Ranges :=
  (alphabetic.minus (.ofUnsorted (ideographic ++ katakana ++ hebrewLetters ++ wordExtending ++
    unspaced))).union wordSigns

/-- Format characters within words. -/
def wordFormats : Ranges := formats.minus [(0x200b, 0x200d), (0xe0020, 0xe007f)]

/-- The values of Word_Break that characters have, by their names. -/
def wordBreaks : NamedRanges :=
  [(["le", "aletter"], wordLetters),
   (["hl", "hebrewletter"], hebrewLetters),
   (["ka", "katakana"], katakana),
   (["nu", "numeric"], digits.union [(0x66b, 0x66b)]),
   (["ex", "extendnumlet"], connectors.union [(0x202f, 0x202f)]),
   (["ml", "midletter"],
    [(0x3a, 0x3a), (0xb7, 0xb7), (0x387, 0x387), (0x55f, 0x55f), (0x5f4, 0x5f4), (0x2027, 0x2027),
     (0xfe13, 0xfe13), (0xfe55, 0xfe55), (0xff1a, 0xff1a)]),
   (["mn", "midnum"],
    [(0x2c, 0x2c), (0x3b, 0x3b), (0x37e, 0x37e), (0x589, 0x589), (0x60c, 0x60d), (0x66c, 0x66c),
     (0x7f8, 0x7f8), (0x2044, 0x2044), (0xfe10, 0xfe10), (0xfe14, 0xfe14), (0xfe50, 0xfe50),
     (0xfe54, 0xfe54), (0xff0c, 0xff0c), (0xff1b, 0xff1b)]),
   (["mb", "midnumlet"],
    [(0x2e, 0x2e), (0x2018, 0x2019), (0x2024, 0x2024), (0xfe52, 0xfe52), (0xff07, 0xff07),
     (0xff0e, 0xff0e)]),
   (["sq", "singlequote"], [(0x27, 0x27)]),
   (["dq", "doublequote"], [(0x22, 0x22)]),
   (["extend"], wordExtending),
   (["fo", "format"], wordFormats),
   (["wsegspace"],
    [(0x20, 0x20), (0x1680, 0x1680), (0x2000, 0x2006), (0x2008, 0x200a), (0x205f, 0x205f),
     (0x3000, 0x3000)]),
   (["nl", "newline"], [(0xb, 0xc), (0x85, 0x85), (0x2028, 0x2029)]),
   (["cr"], carriageReturn),
   (["lf"], lineFeed),
   (["ri", "regionalindicator"], regionalIndicators),
   (["zwj"], zeroWidthJoiner)]

/-! ### Sentences -/

/-- What a sentence goes on over. -/
def sentenceExtending : Ranges := followers.union zeroWidthJoiner

/-- Small letters that a sentence goes on with. -/
def sentenceLower : Ranges :=
  lowercase.minus (.ofUnsorted ([(0x10d0, 0x10fa), (0x10fd, 0x10ff)] ++ sentenceExtending))

/-- Capital letters that a sentence may begin with. -/
def sentenceUpper : Ranges :=
  (uppercase.union titlecaseLetters).minus [(0x1c90, 0x1cba), (0x1cbd, 0x1cbf)]

/-- Other letters. -/
def sentenceLetters : Ranges :=
  (alphabetic.minus (.ofUnsorted (sentenceLower ++ sentenceUpper ++ sentenceExtending))).union
    [(0x5f3, 0x5f3)]

/-- Marks that may end a sentence or an abbreviation. -/
def periods : Ranges :=
  [(0x2e, 0x2e), (0x2024, 0x2024), (0xfe52, 0xfe52), (0xff0e, 0xff0e)]

/-- Closing marks that come in no pairs. -/
def sentenceClosers : Ranges :=
  [(0x22, 0x22), (0x27, 0x27), (0x275b, 0x2760), (0x2e00, 0x2e01), (0x2e06, 0x2e08),
    (0x2e0b, 0x2e0b), (0x1f676, 0x1f678)]

/-- The values of Sentence_Break that characters have, by their names. -/
def sentenceBreaks : NamedRanges :=
  [(["lo", "lower"], sentenceLower),
   (["up", "upper"], sentenceUpper),
   (["le", "oletter"], sentenceLetters),
   (["nu", "numeric"], digits.union [(0x66b, 0x66c)]),
   (["at", "aterm"], periods),
   (["st", "sterm"], sentenceEnds.minus periods),
   (["cl", "close"], brackets.union sentenceClosers),
   (["sc", "scontinue"],
    [(0x2c, 0x2d), (0x3a, 0x3a), (0x55d, 0x55d), (0x60c, 0x60d), (0x7f8, 0x7f8), (0x1802, 0x1802),
     (0x1808, 0x1808), (0x2013, 0x2014), (0x3001, 0x3001), (0xfe10, 0xfe11), (0xfe13, 0xfe13),
     (0xfe31, 0xfe32), (0xfe50, 0xfe51), (0xfe55, 0xfe55), (0xfe58, 0xfe58), (0xfe63, 0xfe63),
     (0xff0c, 0xff0d), (0xff1a, 0xff1a), (0xff64, 0xff64)]),
   (["ex", "extend"], sentenceExtending),
   (["fo", "format"], formats.minus [(0x200c, 0x200d), (0xe0020, 0xe007f)]),
   (["se", "sep"], [(0x85, 0x85), (0x2028, 0x2029)]),
   (["sp"], spaces.union [(9, 9), (11, 12)]),
   (["cr"], carriageReturn),
   (["lf"], lineFeed)]

end EndpointRouting.Text
