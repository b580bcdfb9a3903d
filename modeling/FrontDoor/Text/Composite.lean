/-
Characters that stand for two others.

A composite stands for a base and the character after it, most often a mark: `é` for `e` and an
acute accent.  The base may be a composite too.  The syllables of Hangul are composites by
arithmetic: one stands for a consonant and a vowel, or for such a syllable and a final consonant.
The composites are those of Unicode 17.
-/
import FrontDoor.Text.CodePoint

namespace FrontDoor.Text

/-! ### Hangul -/

/-- How many syllables share their first consonant and vowel. -/
def finals : Nat := 28

/-- How many syllables share their first consonant. -/
def vowelsAndFinals : Nat := 21 * finals

/-- The syllable of a consonant and a vowel, or of an open syllable and a final consonant. -/
def syllable? (first second : Nat) : Option Nat :=
  if 0x1100 ≤ first && first < 0x1113 && 0x1161 ≤ second && second < 0x1176 then
    some (0xac00 + (first - 0x1100) * vowelsAndFinals + (second - 0x1161) * finals)
  else if 0xac00 ≤ first && first < 0xd7a4 && (first - 0xac00) % finals = 0 && 0x11a7 < second &&
      second < 0x11a7 + finals then
    some (first + (second - 0x11a7))
  else none

/-- What a syllable stands for. -/
def syllableParts? (n : Nat) : Option (Nat × Nat) :=
  if 0xac00 ≤ n && n < 0xd7a4 then
    let place := n - 0xac00
    if place % finals = 0 then
      some (0x1100 + place / vowelsAndFinals, 0x1161 + place % vowelsAndFinals / finals)
    else some (n - place % finals, 0x11a7 + place % finals)
  else none

/-! ### Other composites -/

/-- Characters that come second in a composite, each with bases that may precede it and the
composites that stand for the two. -/
def compositeRows : List (Nat × String × String) :=
  [(0x300, "AEINOUWYaeinouwy¨ÂÊÔÜâêôüĂăĒēŌōƠơ", "ÀÈÌǸÒÙẀỲàèìǹòùẁỳ῭ẦỀỒǛầềồǜẰằḔḕṐṑỜờ"),
    (0x300, "ƯưΑΕΗΙΟΥΩαεηιουωϊϋЕИеиἀἁἈἉἐἑἘἙἠἡἨ", "ỪừᾺῈῊῚῸῪῺὰὲὴὶὸὺὼῒῢЀЍѐѝἂἃἊἋἒἓἚἛἢἣἪ"),
    (0x300, "ἩἰἱἸἹὀὁὈὉὐὑὙὠὡὨὩ᾿῾", "ἫἲἳἺἻὂὃὊὋὒὓὛὢὣὪὫ῍῝"),
    (0x301, "ACEGIKLMNOPRSUWYZacegiklmnoprsuwy", "ÁĆÉǴÍḰĹḾŃÓṔŔŚÚẂÝŹáćéǵíḱĺḿńóṕŕśúẃý"),
    (0x301, "z¨ÂÅÆÇÊÏÔÕØÜâåæçêïôõøüĂăĒēŌōŨũƠơƯ", "ź΅ẤǺǼḈẾḮỐṌǾǗấǻǽḉếḯốṍǿǘẮắḖḗṒṓṸṹỚớỨ"),
    (0x301, "ưΑΕΗΙΟΥΩαεηιουωϊϋϒГКгкἀἁἈἉἐἑἘἙἠἡἨ", "ứΆΈΉΊΌΎΏάέήίόύώΐΰϓЃЌѓќἄἅἌἍἔἕἜἝἤἥἬ"),
    (0x301, "ἩἰἱἸἹὀὁὈὉὐὑὙὠὡὨὩ᾿῾", "ἭἴἵἼἽὄὅὌὍὔὕὝὤὥὬὭ῎῞"),
    (0x302, "ACEGHIJOSUWYZaceghijosuwyzẠạẸẹỌọ", "ÂĈÊĜĤÎĴÔŜÛŴŶẐâĉêĝĥîĵôŝûŵŷẑẬậỆệỘộ"),
    (0x303, "AEINOUVYaeinouvyÂÊÔâêôĂăƠơƯư", "ÃẼĨÑÕŨṼỸãẽĩñõũṽỹẪỄỖẫễỗẴẵỠỡỮữ"),
    (0x304, "AEGIOUYaegiouyÄÆÕÖÜäæõöüǪǫȦȧȮȯΑΙΥ", "ĀĒḠĪŌŪȲāēḡīōūȳǞǢȬȪǕǟǣȭȫǖǬǭǠǡȰȱᾹῙῩ"),
    (0x304, "αιυИУиуḶḷṚṛ", "ᾱῑῡӢӮӣӯḸḹṜṝ"),
    (0x306, "AEGIOUaegiouȨȩΑΙΥαιυАЕЖИУаежиуẠạ", "ĂĔĞĬŎŬăĕğĭŏŭḜḝᾸῘῨᾰῐῠӐӖӁЙЎӑӗӂйўẶặ"),
    (0x307, "ABCDEFGHIMNOPRSTWXYZabcdefghmnopr", "ȦḂĊḊĖḞĠḢİṀṄȮṖṘṠṪẆẊẎŻȧḃċḋėḟġḣṁṅȯṗṙ"),
    (0x307, "stwxyzŚśŠšſṢṣ𐗒𐗚", "ṡṫẇẋẏżṤṥṦṧẛṨṩ𐗉𐗤"),
    (0x308, "AEHIOUWXYaehiotuwxyÕõŪūΙΥιυϒІАЕЖЗ", "ÄËḦÏÖÜẄẌŸäëḧïöẗüẅẍÿṎṏṺṻΪΫϊϋϔЇӒЁӜӞ"),
    (0x308, "ИОУЧЫЭаежзиоучыэіӘәӨө", "ӤӦӰӴӸӬӓёӝӟӥӧӱӵӹӭїӚӛӪӫ"),
    (0x309, "AEIOUYaeiouyÂÊÔâêôĂăƠơƯư", "ẢẺỈỎỦỶảẻỉỏủỷẨỂỔẩểổẲẳỞởỬử"),
    (0x30a, "AUauwy", "ÅŮåůẘẙ"),
    (0x30b, "OUouУу", "ŐŰőűӲӳ"),
    (0x30c, "ACDEGHIKLNORSTUZacdeghijklnorstuz", "ǍČĎĚǦȞǏǨĽŇǑŘŠŤǓŽǎčďěǧȟǐǰǩľňǒřšťǔž"),
    (0x30c, "ÜüƷʒ", "ǙǚǮǯ"),
    (0x30f, "AEIORUaeioruѴѵ", "ȀȄȈȌȐȔȁȅȉȍȑȕѶѷ"),
    (0x311, "AEIORUaeioru", "ȂȆȊȎȒȖȃȇȋȏȓȗ"),
    (0x313, "ΑΕΗΙΟΩαεηιορυω", "ἈἘἨἸὈὨἀἐἠἰὀῤὐὠ"),
    (0x314, "ΑΕΗΙΟΡΥΩαεηιορυω", "ἉἙἩἹὉῬὙὩἁἑἡἱὁῥὑὡ"),
    (0x31b, "OUou", "ƠƯơư"),
    (0x323, "ABDEHIKLMNORSTUVWYZabdehiklmnorst", "ẠḄḌẸḤỊḲḶṂṆỌṚṢṬỤṾẈỴẒạḅḍẹḥịḳḷṃṇọṛṣṭ"),
    (0x323, "uvwyzƠơƯư", "ụṿẉỵẓỢợỰự"),
    (0x324, "Uu", "Ṳṳ"),
    (0x325, "Aa", "Ḁḁ"),
    (0x326, "STst", "ȘȚșț"),
    (0x327, "CDEGHKLNRSTcdeghklnrst", "ÇḐȨĢḨĶĻŅŖŞŢçḑȩģḩķļņŗşţ"),
    (0x328, "AEIOUaeiou", "ĄĘĮǪŲąęįǫų"),
    (0x32d, "DELNTUdelntu", "ḒḘḼṊṰṶḓḙḽṋṱṷ"),
    (0x32e, "Hh", "Ḫḫ"),
    (0x330, "EIUeiu", "ḚḬṴḛḭṵ"),
    (0x331, "BDKLNRTZbdhklnrtz", "ḆḎḴḺṈṞṮẔḇḏẖḵḻṉṟṯẕ"),
    (0x338, "<=>←→↔⇐⇒⇔∃∈∋∣∥∼≃≅≈≍≡≤≥≲≳≶≷≺≻≼≽⊂⊃⊆", "≮≠≯↚↛↮⇍⇏⇎∄∉∌∤∦≁≄≇≉≭≢≰≱≴≵≸≹⊀⊁⋠⋡⊄⊅⊈"),
    (0x338, "⊇⊑⊒⊢⊨⊩⊫⊲⊳⊴⊵", "⊉⋢⋣⊬⊭⊮⊯⋪⋫⋬⋭"),
    (0x342, "¨αηιυωϊϋἀἁἈἉἠἡἨἩἰἱἸἹὐὑὙὠὡὨὩ᾿῾", "῁ᾶῆῖῦῶῗῧἆἇἎἏἦἧἮἯἶἷἾἿὖὗὟὦὧὮὯ῏῟"),
    (0x345, "ΑΗΩάήαηωώἀἁἂἃἄἅἆἇἈἉἊἋἌἍἎἏἠἡἢἣἤἥἦἧ", "ᾼῌῼᾴῄᾳῃῳῴᾀᾁᾂᾃᾄᾅᾆᾇᾈᾉᾊᾋᾌᾍᾎᾏᾐᾑᾒᾓᾔᾕᾖᾗ"),
    (0x345, "ἨἩἪἫἬἭἮἯὠὡὢὣὤὥὦὧὨὩὪὫὬὭὮὯὰὴὼᾶῆῶ", "ᾘᾙᾚᾛᾜᾝᾞᾟᾠᾡᾢᾣᾤᾥᾦᾧᾨᾩᾪᾫᾬᾭᾮᾯᾲῂῲᾷῇῷ"),
    (0x653, "\u0627", "\u0622"),
    (0x654, "\u0627\u0648\u064a\u06c1\u06d2", "\u0623\u0624\u0626\u06c2\u06d3"),
    (0x654, "\u06d5", "\u06c0"),
    (0x655, "\u0627", "\u0625"),
    (0x93c, "नरळ", "ऩऱऴ"),
    (0x9be, "\u09c7", "\u09cb"),
    (0x9d7, "\u09c7", "\u09cc"),
    (0xb3e, "\u0b47", "\u0b4b"),
    (0xb56, "\u0b47", "\u0b48"),
    (0xb57, "\u0b47", "\u0b4c"),
    (0xbbe, "\u0bc6\u0bc7", "\u0bca\u0bcb"),
    (0xbd7, "ஒ\u0bc6", "ஔ\u0bcc"),
    (0xc56, "\u0c46", "\u0c48"),
    (0xcc2, "\u0cc6", "\u0cca"),
    (0xcd5, "\u0cbf\u0cc6\u0cca", "\u0cc0\u0cc7\u0ccb"),
    (0xcd6, "\u0cc6", "\u0cc8"),
    (0xd3e, "\u0d46\u0d47", "\u0d4a\u0d4b"),
    (0xd57, "\u0d46", "\u0d4c"),
    (0xdca, "\u0dd9\u0ddc", "\u0dda\u0ddd"),
    (0xdcf, "\u0dd9", "\u0ddc"),
    (0xddf, "\u0dd9", "\u0dde"),
    (0x102e, "ဥ", "ဦ"),
    (0x1b35, "ᬅᬇᬉᬋᬍᬑ\u1b3a\u1b3c\u1b3e\u1b3f", "ᬆᬈᬊᬌᬎᬒ\u1b3b\u1b3d\u1b40\u1b41"),
    (0x1b35, "\u1b42", "\u1b43"),
    (0x3099, "うかきくけこさしすせそたちつてとはひふへほゝウカキクケコサシスセソ", "ゔがぎぐげござじずぜぞだぢづでどばびぶべぼゞヴガギグゲゴザジズゼゾ"),
    (0x3099, "タチツテトハヒフヘホワヰヱヲヽ", "ダヂヅデドバビブベボヷヸヹヺヾ"),
    (0x309a, "はひふへほハヒフヘホ", "ぱぴぷぺぽパピプペポ"),
    (0x110ba, "𑂙𑂛𑂥", "𑂚𑂜𑂫"),
    (0x11127, "𑄱𑄲", "𑄮𑄯"),
    (0x1133e, "𑍇", "𑍋"),
    (0x11357, "𑍇", "𑍌"),
    (0x113b8, "𑏂", "𑏇"),
    (0x113bb, "𑎄", "𑎅"),
    (0x113c2, "𑎎", "𑎎𑏅"),
    (0x113c9, "𑎂𑎐𑏂", "𑎃𑎑𑏈"),
    (0x114b0, "𑒹", "𑒼"),
    (0x114ba, "𑒹", "𑒻"),
    (0x114bd, "𑒹", "𑒾"),
    (0x115af, "𑖸𑖹", "𑖺𑖻"),
    (0x11930, "𑤵", "𑤸"),
    (0x1611e, "𖄞", "𖄡"),
    (0x1611f, "𖄡𖄡𖄩𖄩", "𖄣𖄦𖄧𖄤"),
    (0x16120, "𖄡𖄞", "𖄥𖄨"),
    (0x16129, "𖄞", "𖄢"),
    (0x16d67, "𖵩𖵩", "𖵪𖵧𖵪")]

/-- Each composite with its base and what follows it. -/
def composites : List (Char × Char × Char) :=
  compositeRows.flatMap fun (second, bases, wholes) =>
    (bases.toList.zip wholes.toList).map fun (base, whole) => (whole, base, Char.ofNat second)

/-- What a composite stands for. -/
def parts? (c : Char) : Option (Char × Char) :=
  if c.toNat < 0x80 then none
  else match syllableParts? c.toNat with
    | some (first, second) => some (Char.ofNat first, Char.ofNat second)
    | none => composites.lookup c

/-- The composite that stands for two characters. -/
def composite? (first second : Char) : Option Char :=
  if second.toNat < 0x300 then none
  else match syllable? first.toNat second.toNat with
    | some n => some (Char.ofNat n)
    | none => (composites.find? fun (_, parts) => parts == (first, second)).map Prod.fst

end FrontDoor.Text
