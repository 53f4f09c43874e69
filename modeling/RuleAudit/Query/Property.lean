import RuleAudit.Text.Blank

/-!
The names of character properties that a pattern may use. Case, blanks, hyphens and underscores in
a name do not matter.
-/

namespace RuleAudit.Query.Property

/-- The names of the general categories. -/
def categories : List Text :=
  Text.words
    ["c casedletter cc cf closepunctuation cn cntrl co combiningmark connectorpunctuation",
     "control currencysymbol dashpunctuation decimalnumber digit enclosingmark finalpunctuation",
     "format initialpunctuation l lc letter letternumber lineseparator ll lm lo lowercaseletter",
     "lt lu m mark mathsymbol mc me mn modifierletter modifiersymbol n nd nl no nonspacingmark",
     "number openpunctuation other otherletter othernumber otherpunctuation othersymbol p",
     "paragraphseparator pc pd pe pf pi po privateuse ps punct punctuation s sc separator sk sm",
     "so spaceseparator spacingmark symbol titlecaseletter unassigned uppercaseletter z zl zp zs"]

/-- The names of the scripts. -/
def scripts : List Text :=
  Text.words
    ["adlam adlm aghb ahom anatolianhieroglyphs arab arabic armenian armi armn avestan avst bali",
     "balinese bamu bamum bass bassavah batak batk beng bengali bhaiksuki bhks bopo bopomofo",
     "brah brahmi brai braille bugi buginese buhd buhid cakm canadianaboriginal cans cari carian",
     "caucasianalbanian chakma cham cher cherokee chorasmian chrs common copt coptic cpmn cprt",
     "cuneiform cypriot cyprominoan cyrillic cyrl deseret deva devanagari diak divesakuru dogr",
     "dogra dsrt dupl duployan egyp egyptianhieroglyphs elba elbasan elym elymaic ethi ethiopic",
     "gara garay geor georgian glag glagolitic gong gonm goth gothic gran grantha greek grek",
     "gujarati gujr gukh gunjalagondi gurmukhi guru gurungkhema han hang hangul hani",
     "hanifirohingya hano hanunoo hatr hatran hebr hebrew hira hiragana hluw hmng hmnp hung",
     "imperialaramaic inherited inscriptionalpahlavi inscriptionalparthian ital java javanese",
     "kaithi kali kana kannada katakana kawi kayahli khar kharoshthi khitansmallscript khmer",
     "khmr khoj khojki khudawadi kiratrai kits knda krai kthi lana lao laoo latin latn lepc",
     "lepcha limb limbu lina linb lineara linearb lisu lyci lycian lydi lydian mahajani mahj",
     "maka makasar malayalam mand mandaic mani manichaean marc marchen masaramgondi medefaidrin",
     "medf meeteimayek mend mendekikakui merc mero meroiticcursive meroitichieroglyphs miao mlym",
     "modi mong mongolian mro mroo mtei mult multani myanmar mymr nabataean nagm nagmundari nand",
     "nandinagari narb nbat newa newtailue nko nkoo nshu nushu nyiakengpuachuehmong ogam ogham",
     "olchiki olck oldhungarian olditalic oldnortharabian oldpermic oldpersian oldsogdian",
     "oldsoutharabian oldturkic olduyghur olonal onao oriya orkh orya osage osge osma osmanya",
     "ougr pahawhhmong palm palmyrene pauc paucinhau perm phag phagspa phli phlp phnx phoenician",
     "plrd prti psalterpahlavi qaac qaai rejang rjng rohg runic runr samaritan samr sarb saur",
     "saurashtra sgnw sharada shavian shaw shrd sidd siddham signwriting sind sinh sinhala sogd",
     "sogdian sogo sora sorasompeng soyo soyombo sund sundanese sunu sunuwar sylo sylotinagri",
     "syrc syriac tagalog tagb tagbanwa taile taitham taiviet takr takri tale talu tamil taml",
     "tang tangsa tangut tavt telu telugu tfng tglg thaa thaana thai tibetan tibt tifinagh tirh",
     "tirhuta tnsa todhri todr toto tulutigalari tutg ugar ugaritic unknown vai vaii vith",
     "vithkuqi wancho wara warangciti wcho xpeo xsux yezi yezidi yi yiii zanabazarsquare zanb",
     "zinh zyyy zzzz"]

/-- The names of the properties that a character has or has not. -/
def flags : List Text :=
  Text.words
    ["ahex alpha alphabetic any ascii asciihexdigit assigned bidic bidicontrol bidim",
     "bidimirrored cased caseignorable changeswhencasefolded changeswhencasemapped",
     "changeswhenlowercased changeswhentitlecased changeswhenuppercased ci cwcf cwcm cwl cwt cwu",
     "dash defaultignorablecodepoint dep deprecated di dia diacritic ebase ecomp emod emoji",
     "emojicomponent emojimodifier emojimodifierbase emojipresentation epres ext",
     "extendedpictographic extender extpict graphemebase graphemeextend grbase grext hex",
     "hexdigit idc idcontinue ideo ideographic ids idsb idsbinaryoperator idst idstart",
     "idstrinaryoperator joinc joincontrol loe logicalorderexception lower lowercase math nchar",
     "noncharactercodepoint patsyn patternsyntax patternwhitespace patws pcm",
     "prependedconcatenationmark qmark quotationmark radical regionalindicator ri sd",
     "sentenceterminal softdotted space sterm term terminalpunctuation uideo unifiedideograph",
     "upper uppercase variationselector vs whitespace wspace xidc xidcontinue xids xidstart"]

/-- A name in the form of the tables. -/
def normal (t : Text) : Text :=
  let u := Text.lower (t.filter fun c => !(Text.isBlank c || c == '-' || c == '_'))
  match u with
  | 'i' :: 's' :: rest => if rest = ['c'] ∨ rest = [] then u else rest
  | u => u

/-- A property, or a category or script by its own name, is known. -/
def isKnown (t : Text) : Bool :=
  normal t ∈ flags || normal t ∈ categories || normal t ∈ scripts

/-- A category or a script is known by this name. -/
def isKnownValue (property value : Text) : Bool :=
  let p := normal property
  if p = ("gc" : Text) ∨ p = ("generalcategory" : Text) then normal value ∈ categories
  else if p = ("sc" : Text) ∨ p = ("script" : Text) ∨ p = ("scx" : Text)
      ∨ p = ("scriptextensions" : Text) then normal value ∈ scripts
  else false

end RuleAudit.Query.Property
