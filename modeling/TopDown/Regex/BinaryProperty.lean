import TopDown.Regex.TextBreak
import TopDown.Unicode.Casing
import TopDown.Unicode.Identifier

namespace TopDown.Regex

namespace CharSet

def titlecase : CharSet := ofCategories [.titlecaseLetter]

def changesWhenLowercased : CharSet :=
  sdiff (.union (.property .uppercase) titlecase) (ofTable Unicode.withoutLowercase)

def changesWhenUppercased : CharSet :=
  sdiff (.union (.property .lowercase) titlecase) (ofTable Unicode.withoutUppercase)

def changesWhenTitlecased : CharSet :=
  sdiff (.union changesWhenUppercased (ofTable Unicode.titlecasedOnly))
    (ofTable Unicode.uppercasedOnly)

def changesWhenCasefolded : CharSet :=
  sdiff (.union changesWhenLowercased (ofTable Unicode.foldedOnly)) (ofTable Unicode.lowercasedOnly)

def caseIgnorable : CharSet :=
  anyOf [ofCategories [.nonspacingMark, .enclosingMark, .format, .modifierLetter, .modifierSymbol],
    ofTable Unicode.midLetter, ofTable Unicode.midNumLet, single '\'']

def graphemeBase : CharSet :=
  .compl (.union graphemeExtend
    (ofCategories [.control, .format, .privateUse, .unassigned, .lineSeparator,
      .paragraphSeparator]))

def pattern : CharSet :=
  .union (ofTable Unicode.patternSyntax) (ofTable Unicode.patternBlank)

def idStart : CharSet :=
  sdiff (.union (ofCategories (Unicode.Category.letter ++ [.letterNumber]))
    (ofTable Unicode.otherIdStart)) pattern

def idContinue : CharSet :=
  sdiff (anyOf [idStart, ofTable Unicode.otherIdContinue,
    ofCategories [.nonspacingMark, .spacingMark, .decimalNumber, .connectorPunctuation]]) pattern

/-- The sets that are named by themselves, without a property of which they are the value. -/
def binaryProperties : List (List String × CharSet) :=
  [(["asciihexdigit", "ahex"], asciiHexDigit),
    (["alphabetic", "alpha"], .property .alphabetic),
    (["bidicontrol", "bidic"], ofTable Unicode.bidiControl),
    (["bidimirrored", "bidim"], ofTable Unicode.bidiMirrored),
    (["caseignorable", "ci"], caseIgnorable),
    (["cased"], anyOf [.property .lowercase, .property .uppercase, titlecase]),
    (["changeswhencasefolded", "cwcf"], changesWhenCasefolded),
    (["changeswhencasemapped", "cwcm"],
      anyOf [changesWhenLowercased, changesWhenUppercased, changesWhenTitlecased]),
    (["changeswhenlowercased", "cwl"], changesWhenLowercased),
    (["changeswhentitlecased", "cwt"], changesWhenTitlecased),
    (["changeswhenuppercased", "cwu"], changesWhenUppercased),
    (["dash"], .union (ofCategories [.dashPunctuation]) (ofTable Unicode.otherDash)),
    (["defaultignorablecodepoint", "di"], defaultIgnorable),
    (["deprecated", "dep"], ofTable Unicode.deprecated),
    (["diacritic", "dia"], ofTable Unicode.diacritic),
    (["emoji"], ofTable Unicode.emoji),
    (["emojicomponent", "ecomp"], ofTable Unicode.emojiComponent),
    (["emojimodifier", "emod"], ofTable Unicode.emojiModifier),
    (["emojimodifierbase", "ebase"], ofTable Unicode.emojiModifierBase),
    (["emojipresentation", "epres"], ofTable Unicode.emojiPresentation),
    (["extendedpictographic", "extpict"], ofTable Unicode.extendedPictographic),
    (["extender", "ext"], ofTable Unicode.extender),
    (["graphemebase", "grbase"], graphemeBase),
    (["graphemeextend", "grext"], graphemeExtend),
    (["graphemelink", "grlink"], ofTable Unicode.virama),
    (["hexdigit", "hex"], .union asciiHexDigit (ofTable Unicode.fullwidthHexDigit)),
    (["hyphen"], ofTable Unicode.hyphen),
    (["idsbinaryoperator", "idsb"], ofTable Unicode.binaryDescription),
    (["idstrinaryoperator", "idst"], ofTable Unicode.ternaryDescription),
    (["idcontinue", "idc"], idContinue),
    (["idstart", "ids"], idStart),
    (["ideographic", "ideo"], ofTable Unicode.ideographic),
    (["joincontrol", "joinc"], ofTable Unicode.joinControl),
    (["logicalorderexception", "loe"], ofTable Unicode.logicalOrderException),
    (["lowercase", "lower"], .property .lowercase),
    (["math"], .union (ofCategories [.mathSymbol]) (ofTable Unicode.otherMath)),
    (["noncharactercodepoint", "nchar"], ofTable Unicode.noncharacter),
    (["otheralphabetic", "oalpha"], ofTable Unicode.otherAlphabetic),
    (["otherdefaultignorablecodepoint", "odi"], ofTable Unicode.otherDefaultIgnorable),
    (["othergraphemeextend", "ogrext"], ofTable Unicode.otherGraphemeExtend),
    (["otheridcontinue", "oidc"], ofTable Unicode.otherIdContinue),
    (["otheridstart", "oids"], ofTable Unicode.otherIdStart),
    (["otherlowercase", "olower"], ofTable Unicode.otherLowercase),
    (["othermath", "omath"], ofTable Unicode.otherMath),
    (["otheruppercase", "oupper"], ofTable Unicode.otherUppercase),
    (["patternsyntax", "patsyn"], ofTable Unicode.patternSyntax),
    (["patternwhitespace", "patws"], ofTable Unicode.patternBlank),
    (["prependedconcatenationmark", "pcm"], ofTable Unicode.prependedMark),
    (["quotationmark", "qmark"], ofTable Unicode.quotationMark),
    (["radical"], ofTable Unicode.radical),
    (["regionalindicator", "ri"], regionalIndicator),
    (["sentenceterminal", "sterm"], ofTable Unicode.sentenceEnd),
    (["softdotted", "sd"], ofTable Unicode.softDotted),
    (["terminalpunctuation", "term"],
      .union (ofTable Unicode.sentenceEnd) (ofTable Unicode.otherTerminal)),
    (["unifiedideograph", "uideo"], ofTable Unicode.unifiedIdeograph),
    (["uppercase", "upper"], .property .uppercase),
    (["variationselector", "vs"], ofTable Unicode.variationSelector),
    (["whitespace", "wspace", "space"], .property .blank),
    (["xidcontinue", "xidc"], sdiff idContinue (ofTable Unicode.composedIdContinue)),
    (["xidstart", "xids"],
      sdiff idStart
        (.union (ofTable Unicode.composedIdContinue) (ofTable Unicode.composedIdStart)))]

end CharSet

end TopDown.Regex
