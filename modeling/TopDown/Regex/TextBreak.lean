import TopDown.Regex.CharSet
import TopDown.Unicode.Emoji
import TopDown.Unicode.TextBreak
import TopDown.Unicode.Usage

namespace TopDown.Regex

namespace CharSet

def carriageReturn : CharSet := single '\r'

def lineFeed : CharSet := single '\n'

def zeroWidthJoiner : CharSet := ofPoints [(0x200d, 0x200d)]

def regionalIndicator : CharSet := ofTable Unicode.regionalIndicator

def graphemeExtend : CharSet :=
  .union (ofCategories [.nonspacingMark, .enclosingMark]) (ofTable Unicode.otherGraphemeExtend)

def defaultIgnorable : CharSet :=
  sdiff
    (anyOf [ofTable Unicode.otherDefaultIgnorable, ofCategories [.format],
      ofTable Unicode.variationSelector])
    (.union (ofTable Unicode.visibleFormat) (ofTable Unicode.prependedMark))

def graphemeControl : CharSet :=
  sdiff
    (.union (ofCategories [.control, .format, .lineSeparator, .paragraphSeparator])
      (.inter (ofCategories [.unassigned]) defaultIgnorable))
    (anyOf [carriageReturn, lineFeed, zeroWidthJoiner, graphemeExtend,
      ofTable Unicode.prependedMark])

/-- Hangul syllables without a final consonant, which are every 28th syllable. -/
def openSyllable : CharSet :=
  ofPoints ((List.range 399).map fun k ↦ (0xac00 + 28 * k, 0xac00 + 28 * k))

def closedSyllable : CharSet :=
  sdiff (ofPoints [(0xac00, 0xd7a3)]) openSyllable

def spacingMark : CharSet :=
  sdiff (.union (ofCategories [.spacingMark]) (ofPoints [(0xe33, 0xe33), (0xeb3, 0xeb3)]))
    (.union graphemeExtend (ofTable Unicode.detachedMark))

/-- The roles of characters where text is cut into characters as a reader counts them. -/
def graphemeBreaks : List (List String × CharSet) :=
  [(["control", "cn"], graphemeControl),
    (["cr"], carriageReturn),
    (["extend", "ex"], .union graphemeExtend (ofTable Unicode.emojiModifier)),
    (["l"], ofPoints [(0x1100, 0x115f), (0xa960, 0xa97c)]),
    (["lf"], lineFeed),
    (["lv"], openSyllable),
    (["lvt"], closedSyllable),
    (["prepend", "pp"], .union (ofTable Unicode.prependedMark) (ofTable Unicode.prepended)),
    (["regionalindicator", "ri"], regionalIndicator),
    (["spacingmark", "sm"], spacingMark),
    (["t"], ofPoints [(0x11a8, 0x11ff), (0xd7cb, 0xd7fb)]),
    (["v"], ofPoints [(0x1160, 0x11a7), (0xd7b0, 0xd7c6)]),
    (["zwj"], zeroWidthJoiner)]

def wordExtend : CharSet :=
  anyOf [graphemeExtend, ofCategories [.spacingMark], ofTable Unicode.emojiModifier]

def spacedLetter : CharSet :=
  sdiff (.union (.property .alphabetic) (ofTable Unicode.wordLike))
    (anyOf [ofTable Unicode.ideographic, ofTable Unicode.katakanaWord,
      ofTable Unicode.hebrewLetter, ofTable Unicode.unspacedLetter, wordExtend])

def newline : CharSet :=
  ofPoints [(0x85, 0x85), (0x2028, 0x2029)]

def wordBreaks : List (List String × CharSet) :=
  [(["aletter", "le"], spacedLetter),
    (["cr"], carriageReturn),
    (["doublequote", "dq"], single '"'),
    (["extend"], wordExtend),
    (["extendnumlet", "ex"],
      .union (ofCategories [.connectorPunctuation]) (ofPoints [(0x202f, 0x202f)])),
    (["format", "fo"],
      sdiff (ofCategories [.format])
        (.union wordExtend (ofPoints [(0x200b, 0x200b), (0x200d, 0x200d)]))),
    (["hebrewletter", "hl"], ofTable Unicode.hebrewLetter),
    (["katakana", "ka"], ofTable Unicode.katakanaWord),
    (["lf"], lineFeed),
    (["midletter", "ml"], ofTable Unicode.midLetter),
    (["midnum", "mn"], ofTable Unicode.midNum),
    (["midnumlet", "mb"], ofTable Unicode.midNumLet),
    (["newline", "nl"], .union newline (.range '\x0b' '\x0c')),
    (["numeric", "nu"], .union (.property .digit) (ofPoints [(0x66b, 0x66b)])),
    (["regionalindicator", "ri"], regionalIndicator),
    (["singlequote", "sq"], single '\''),
    (["wsegspace"],
      sdiff (ofCategories [.spaceSeparator])
        (ofPoints [(0xa0, 0xa0), (0x2007, 0x2007), (0x202f, 0x202f)])),
    (["zwj"], zeroWidthJoiner)]

def sentenceExtend : CharSet :=
  anyOf [graphemeExtend, ofCategories [.spacingMark], zeroWidthJoiner]

/-- Small letters but the Georgian ones, which have no place in a sentence that tells them apart. -/
def sentenceLower : CharSet :=
  sdiff (.property .lowercase)
    (.union graphemeExtend (ofPoints [(0x10d0, 0x10fa), (0x10fd, 0x10ff)]))

def sentenceUpper : CharSet :=
  sdiff (.union (.property .uppercase) (ofCategories [.titlecaseLetter]))
    (ofPoints [(0x1c90, 0x1cba), (0x1cbd, 0x1cbf)])

def sentenceBreaks : List (List String × CharSet) :=
  [(["aterm", "at"], ofTable Unicode.fullStop),
    (["close", "cl"],
      .union (ofCategories [.openPunctuation, .closePunctuation, .initialPunctuation,
        .finalPunctuation]) (ofTable Unicode.otherClosing)),
    (["cr"], carriageReturn),
    (["extend", "ex"], sentenceExtend),
    (["format", "fo"], sdiff (ofCategories [.format]) sentenceExtend),
    (["lf"], lineFeed),
    (["lower", "lo"], sentenceLower),
    (["numeric", "nu"], .union (.property .digit) (ofPoints [(0x66b, 0x66c)])),
    (["oletter", "le"],
      sdiff (.union (.property .alphabetic) (ofPoints [(0x5f3, 0x5f3)]))
        (anyOf [sentenceLower, sentenceUpper, sentenceExtend])),
    (["scontinue", "sc"], ofTable Unicode.sentenceContinue),
    (["sep", "se"], newline),
    (["sp"], sdiff (.property .blank) (anyOf [carriageReturn, lineFeed, newline])),
    (["sterm", "st"], sdiff (ofTable Unicode.sentenceEnd) (ofTable Unicode.fullStop)),
    (["upper", "up"], sentenceUpper)]

end CharSet

end TopDown.Regex
