/-
What the characters of a name are read as.

Capital letters are read as small ones, and characters that were given a code point for the sake of
their form (wide, narrow, raised, encircled, joined) as the plain ones.  Some characters are passed
over.  No name has a character without a visible form or one that is read with a blank in it.  The
table is that of Unicode 17.
-/
import FrontDoor.Text.Pieces
import FrontDoor.Text.Unseen

namespace FrontDoor.Url.Folding

/-- Runs of characters that are passed over. -/
def passedRanges : List (Nat × Nat) :=
  [(0xad, 0xad), (0x34f, 0x34f), (0x115f, 0x1160), (0x17b4, 0x17b5), (0x180b, 0x180f),
    (0x200b, 0x200b), (0x2060, 0x2064), (0x206a, 0x206f), (0x3164, 0x3164), (0xfe00, 0xfe0f),
    (0xfeff, 0xfeff), (0xffa0, 0xffa0), (0x1bca0, 0x1bca3), (0x1d173, 0x1d17a), (0xe0100, 0xe01ef)]

/-- Runs of visible characters that no name has: those read with a dot within a number or a unit,
and those that describe or replace others. -/
def barredRanges : List (Nat × Nat) :=
  [(0x2024, 0x2026), (0x2488, 0x249b), (0x2ff0, 0x2fff), (0x31ef, 0x31ef), (0x33c2, 0x33c2),
    (0x33c7, 0x33c7), (0x33d8, 0x33d8), (0xfe12, 0xfe12), (0xfe19, 0xfe19), (0xfe30, 0xfe30),
    (0xfe52, 0xfe52), (0xfffc, 0xfffd), (0x1f100, 0x1f100)]

/-- Runs of visible characters that are read with a blank. -/
def blankedRanges : List (Nat × Nat) :=
  [(0xa8, 0xa8), (0xaf, 0xaf), (0xb4, 0xb4), (0xb8, 0xb8), (0x2d8, 0x2dd), (0x37a, 0x37a),
    (0x384, 0x385), (0x1fbd, 0x1fbd), (0x1fbf, 0x1fc1), (0x1fcd, 0x1fcf), (0x1fdd, 0x1fdf),
    (0x1fed, 0x1fee), (0x1ffd, 0x1ffe), (0x2017, 0x2017), (0x203e, 0x203e), (0x309b, 0x309c),
    (0xfc5e, 0xfc63), (0xfdfa, 0xfdfb), (0xfe49, 0xfe4c), (0xfe70, 0xfe70), (0xfe72, 0xfe72),
    (0xfe74, 0xfe74), (0xfe76, 0xfe76), (0xfe78, 0xfe78), (0xfe7a, 0xfe7a), (0xfe7c, 0xfe7c),
    (0xfe7e, 0xfe7e), (0xffe3, 0xffe3)]

/-- From a code point on, what each is read as, with spaces between. -/
def rows : List (Nat × String) :=
  [(0xaa, "a"),
    (0xb2, "2 3 ´ μ"),
    (0xb9, "1 o » 1⁄4 1⁄2 3⁄4 ¿ à á â ã ä å æ ç è é ê ë ì í î ï ð ñ ò ó ô õ ö × ø ù ú û ü ý þ"),
    (0x100, "ā ā ă ă ą ą ć ć ĉ ĉ ċ ċ č č ď ď đ đ ē ē ĕ ĕ ė ė ę ę ě ě ĝ ĝ ğ ğ ġ ġ ģ ģ ĥ ĥ ħ ħ ĩ"),
    (0x129, "ĩ ī ī ĭ ĭ į į i\u0307 ı ij ij ĵ ĵ ķ ķ ĸ ĺ ĺ ļ ļ ľ ľ l· l· ł ł ń ń ņ ņ ň ň ʼn ŋ ŋ ō"),
    (0x14d, "ō ŏ ŏ ő ő œ œ ŕ ŕ ŗ ŗ ř ř ś ś ŝ ŝ ş ş š š ţ ţ ť ť ŧ ŧ ũ ũ ū ū ŭ ŭ ů ů ű ű ų ų ŵ ŵ"),
    (0x176, "ŷ ŷ ÿ ź ź ż ż ž ž s ƀ ɓ ƃ ƃ ƅ ƅ ɔ ƈ ƈ ɖ ɗ ƌ ƌ ƍ ǝ ə ɛ ƒ ƒ ɠ ɣ ƕ ɩ ɨ ƙ"),
    (0x19c, "ɯ ɲ ƞ ɵ ơ ơ ƣ ƣ ƥ ƥ ʀ ƨ ƨ ʃ ƪ ƫ ƭ ƭ ʈ ư ư ʊ ʋ ƴ ƴ ƶ ƶ ʒ ƹ"),
    (0x1bc, "ƽ"),
    (0x1c4, "dž dž dž lj lj lj nj nj nj ǎ ǎ ǐ ǐ ǒ ǒ ǔ ǔ ǖ ǖ ǘ ǘ ǚ ǚ ǜ ǜ ǝ ǟ ǟ ǡ ǡ ǣ ǣ ǥ ǥ ǧ ǧ ǩ"),
    (0x1e9, "ǩ ǫ ǫ ǭ ǭ ǯ ǯ ǰ dz dz dz ǵ ǵ ƕ ƿ ǹ ǹ ǻ ǻ ǽ ǽ ǿ ǿ ȁ ȁ ȃ ȃ ȅ ȅ ȇ ȇ ȉ ȉ ȋ ȋ ȍ ȍ ȏ ȏ ȑ"),
    (0x211, "ȑ ȓ ȓ ȕ ȕ ȗ ȗ ș ș ț ț ȝ ȝ ȟ ȟ ƞ ȡ ȣ ȣ ȥ ȥ ȧ ȧ ȩ ȩ ȫ ȫ ȭ ȭ ȯ ȯ ȱ ȱ ȳ"),
    (0x23a, "ⱥ ȼ ȼ ƚ ⱦ ȿ ɀ ɂ ɂ ƀ ʉ ʌ ɇ ɇ ɉ ɉ ɋ ɋ ɍ ɍ ɏ"),
    (0x2b0, "h ɦ j r ɹ ɻ ʁ w y"),
    (0x2e0, "ɣ l s x ʕ"),
    (0x340, "\u0300 \u0301 \u0342 \u0313 \u0308\u0301 ι"),
    (0x370, "ͱ ͱ ͳ ͳ ʹ ͵ ͷ"),
    (0x37e, "; ϳ"),
    (0x386, "ά · έ ή ί \u038b ό \u038d ύ ώ ΐ α β γ δ ε ζ η θ ι κ λ μ ν ξ ο π ρ \u03a2 σ τ υ φ χ"),
    (0x3a8, "ψ ω ϊ ϋ"),
    (0x3cf, "ϗ β θ υ ύ ϋ φ π ϗ ϙ ϙ ϛ ϛ ϝ ϝ ϟ ϟ ϡ ϡ ϣ ϣ ϥ ϥ ϧ ϧ ϩ ϩ ϫ ϫ ϭ ϭ ϯ ϯ κ ρ σ ϳ θ ε ϶ ϸ"),
    (0x3f8, "ϸ σ ϻ ϻ ϼ ͻ ͼ ͽ ѐ ё ђ ѓ є ѕ і ї ј љ њ ћ ќ ѝ ў џ а б в г д е ж з и й к л м н о п р"),
    (0x421, "с т у ф х ц ч ш щ ъ ы ь э ю я"),
    (0x460, "ѡ ѡ ѣ ѣ ѥ ѥ ѧ ѧ ѩ ѩ ѫ ѫ ѭ ѭ ѯ ѯ ѱ ѱ ѳ ѳ ѵ ѵ ѷ ѷ ѹ ѹ ѻ ѻ ѽ ѽ ѿ ѿ ҁ"),
    (0x48a, "ҋ ҋ ҍ ҍ ҏ ҏ ґ ґ ғ ғ ҕ ҕ җ җ ҙ ҙ қ қ ҝ ҝ ҟ ҟ ҡ ҡ ң ң ҥ ҥ ҧ ҧ ҩ ҩ ҫ ҫ ҭ ҭ ү ү ұ ұ ҳ"),
    (0x4b3, "ҳ ҵ ҵ ҷ ҷ ҹ ҹ һ һ ҽ ҽ ҿ ҿ ӏ ӂ ӂ ӄ ӄ ӆ ӆ ӈ ӈ ӊ ӊ ӌ ӌ ӎ ӎ ӏ ӑ ӑ ӓ ӓ ӕ ӕ ӗ ӗ ә ә ӛ ӛ"),
    (0x4dc, "ӝ ӝ ӟ ӟ ӡ ӡ ӣ ӣ ӥ ӥ ӧ ӧ ө ө ӫ ӫ ӭ ӭ ӯ ӯ ӱ ӱ ӳ ӳ ӵ ӵ ӷ ӷ ӹ ӹ ӻ ӻ ӽ ӽ ӿ ӿ ԁ ԁ ԃ ԃ ԅ"),
    (0x505, "ԅ ԇ ԇ ԉ ԉ ԋ ԋ ԍ ԍ ԏ ԏ ԑ ԑ ԓ ԓ ԕ ԕ ԗ ԗ ԙ ԙ ԛ ԛ ԝ ԝ ԟ ԟ ԡ ԡ ԣ ԣ ԥ ԥ ԧ ԧ ԩ ԩ ԫ ԫ ԭ ԭ"),
    (0x52e, "ԯ ԯ \u0530 ա բ գ դ ե զ է ը թ ժ ի լ խ ծ կ հ ձ ղ ճ մ յ ն շ ո չ պ ջ ռ ս վ տ ր ց ւ փ ք"),
    (0x555, "օ ֆ"),
    (0x587, "եւ"),
    (0x675, "\u0627\u0674 \u0648\u0674 \u06c7\u0674 \u064a\u0674"),
    (0x958, "क\u093c ख\u093c ग\u093c ज\u093c ड\u093c ढ\u093c फ\u093c य\u093c"),
    (0x9dc, "ড\u09bc ঢ\u09bc \u09de য\u09bc"),
    (0xa33, "ਲ\u0a3c \u0a34 ਵ ਸ\u0a3c"),
    (0xa59, "ਖ\u0a3c ਗ\u0a3c ਜ\u0a3c ੜ \u0a5d ਫ\u0a3c"),
    (0xb5c, "ଡ\u0b3c ଢ\u0b3c"),
    (0xe33, "\u0e4dา"),
    (0xeb3, "\u0ecdາ"),
    (0xedc, "ຫນ ຫມ"),
    (0xf0c, "་"),
    (0xf43, "ག\u0fb7"),
    (0xf4d, "ཌ\u0fb7"),
    (0xf52, "ད\u0fb7"),
    (0xf57, "བ\u0fb7"),
    (0xf5c, "ཛ\u0fb7"),
    (0xf69, "ཀ\u0fb5"),
    (0xf73, "\u0f71\u0f72 \u0f74 \u0f71\u0f74 \u0fb2\u0f80 \u0fb2\u0f71\u0f80 \u0fb3\u0f80"),
    (0xf79, "\u0fb3\u0f71\u0f80"),
    (0xf81, "\u0f71\u0f80"),
    (0xf93, "\u0f92\u0fb7"),
    (0xf9d, "\u0f9c\u0fb7"),
    (0xfa2, "\u0fa1\u0fb7"),
    (0xfa7, "\u0fa6\u0fb7"),
    (0xfac, "\u0fab\u0fb7"),
    (0xfb9, "\u0f90\u0fb5"),
    (0x10a0, "ⴀ ⴁ ⴂ ⴃ ⴄ ⴅ ⴆ ⴇ ⴈ ⴉ ⴊ ⴋ ⴌ ⴍ ⴎ ⴏ ⴐ ⴑ ⴒ ⴓ ⴔ ⴕ ⴖ ⴗ ⴘ ⴙ ⴚ ⴛ ⴜ ⴝ ⴞ ⴟ ⴠ ⴡ ⴢ ⴣ ⴤ ⴥ"),
    (0x10c6, "\u10c6 ⴧ"),
    (0x10cd, "ⴭ"),
    (0x10fc, "ნ"),
    (0x13f8, "Ᏸ Ᏹ Ᏺ Ᏻ Ᏼ Ᏽ"),
    (0x1c80, "в д о с т т ъ ѣ ꙋ ᲊ"),
    (0x1c90, "ა ბ გ დ ე ვ ზ თ ი კ ლ მ ნ ო პ ჟ რ ს ტ უ ფ ქ ღ ყ შ ჩ ც ძ წ ჭ ხ ჯ ჰ ჱ ჲ ჳ ჴ ჵ ჶ ჷ ჸ"),
    (0x1cb9, "ჹ ჺ \u1cbb \u1cbc ჽ ჾ ჿ"),
    (0x1d2c, "a æ b ᴯ d e ǝ g h i j k l m n ᴻ o ȣ p r t u w a ɐ ɑ ᴂ b d e ə ɛ ɜ g ᵎ k m ŋ o ɔ ᴖ"),
    (0x1d55, "ᴗ p t u ᴝ ɯ v ᴥ β γ δ φ χ i r u v β γ ρ φ χ"),
    (0x1d78, "н"),
    (0x1d9b, "ɒ c ɕ ð ɜ f ɟ ɡ ɥ ɨ ɩ ɪ ᵻ ʝ ɭ ᶅ ʟ ɱ ɰ ɲ ɳ ɴ ɵ ɸ ʂ ʃ ƫ ʉ ʊ ᴜ ʋ ʌ z ʐ ʑ ʒ θ"),
    (0x1e00, "ḁ ḁ ḃ ḃ ḅ ḅ ḇ ḇ ḉ ḉ ḋ ḋ ḍ ḍ ḏ ḏ ḑ ḑ ḓ ḓ ḕ ḕ ḗ ḗ ḙ ḙ ḛ ḛ ḝ ḝ ḟ ḟ ḡ ḡ ḣ ḣ ḥ ḥ ḧ ḧ ḩ"),
    (0x1e29, "ḩ ḫ ḫ ḭ ḭ ḯ ḯ ḱ ḱ ḳ ḳ ḵ ḵ ḷ ḷ ḹ ḹ ḻ ḻ ḽ ḽ ḿ ḿ ṁ ṁ ṃ ṃ ṅ ṅ ṇ ṇ ṉ ṉ ṋ ṋ ṍ ṍ ṏ ṏ ṑ ṑ"),
    (0x1e52, "ṓ ṓ ṕ ṕ ṗ ṗ ṙ ṙ ṛ ṛ ṝ ṝ ṟ ṟ ṡ ṡ ṣ ṣ ṥ ṥ ṧ ṧ ṩ ṩ ṫ ṫ ṭ ṭ ṯ ṯ ṱ ṱ ṳ ṳ ṵ ṵ ṷ ṷ ṹ ṹ ṻ"),
    (0x1e7b, "ṻ ṽ ṽ ṿ ṿ ẁ ẁ ẃ ẃ ẅ ẅ ẇ ẇ ẉ ẉ ẋ ẋ ẍ ẍ ẏ ẏ ẑ ẑ ẓ ẓ ẕ"),
    (0x1e9a, "aʾ ṡ ẜ ẝ ß ẟ ạ ạ ả ả ấ ấ ầ ầ ẩ ẩ ẫ ẫ ậ ậ ắ ắ ằ ằ ẳ ẳ ẵ ẵ ặ ặ ẹ ẹ ẻ ẻ ẽ ẽ ế ế ề ề"),
    (0x1ec2, "ể ể ễ ễ ệ ệ ỉ ỉ ị ị ọ ọ ỏ ỏ ố ố ồ ồ ổ ổ ỗ ỗ ộ ộ ớ ớ ờ ờ ở ở ỡ ỡ ợ ợ ụ ụ ủ ủ ứ ứ ừ"),
    (0x1eeb, "ừ ử ử ữ ữ ự ự ỳ ỳ ỵ ỵ ỷ ỷ ỹ ỹ ỻ ỻ ỽ ỽ ỿ"),
    (0x1f08, "ἀ ἁ ἂ ἃ ἄ ἅ ἆ ἇ"),
    (0x1f18, "ἐ ἑ ἒ ἓ ἔ ἕ"),
    (0x1f28, "ἠ ἡ ἢ ἣ ἤ ἥ ἦ ἧ"),
    (0x1f38, "ἰ ἱ ἲ ἳ ἴ ἵ ἶ ἷ"),
    (0x1f48, "ὀ ὁ ὂ ὃ ὄ ὅ"),
    (0x1f59, "ὑ \u1f5a ὓ \u1f5c ὕ \u1f5e ὗ"),
    (0x1f68, "ὠ ὡ ὢ ὣ ὤ ὥ ὦ ὧ ὰ ά ὲ έ ὴ ή ὶ ί ὸ ό ὺ ύ ὼ ώ \u1f7e \u1f7f ἀι ἁι ἂι ἃι ἄι ἅι ἆι ἇι"),
    (0x1f88, "ἀι ἁι ἂι ἃι ἄι ἅι ἆι ἇι ἠι ἡι ἢι ἣι ἤι ἥι ἦι ἧι ἠι ἡι ἢι ἣι ἤι ἥι ἦι ἧι ὠι ὡι ὢι"),
    (0x1fa3, "ὣι ὤι ὥι ὦι ὧι ὠι ὡι ὢι ὣι ὤι ὥι ὦι ὧι ᾰ ᾱ ὰι αι άι \u1fb5 ᾶ ᾶι ᾰ ᾱ ὰ ά αι ᾽ ι"),
    (0x1fc2, "ὴι ηι ήι \u1fc5 ῆ ῆι ὲ έ ὴ ή ηι"),
    (0x1fd3, "ΐ"),
    (0x1fd8, "ῐ ῑ ὶ ί"),
    (0x1fe3, "ΰ"),
    (0x1fe8, "ῠ ῡ ὺ ύ ῥ ῭ ΅ \x60 \u1ff0 \u1ff1 ὼι ωι ώι \u1ff5 ῶ ῶι ὸ ό ὼ ώ ωι"),
    (0x2011, "‐"),
    (0x2033, "′′ ′′′ ‵ ‵‵ ‵‵‵"),
    (0x203c, "!!"),
    (0x2047, "?? ?! !?"),
    (0x2057, "′′′′"),
    (0x2070, "0 i \u2072 \u2073 4 5 6 7 8 9 + − = ( ) n 0 1 2 3 4 5 6 7 8 9 + − = ( ) \u208f a"),
    (0x2091, "e o x ə h k l m n p s t"),
    (0x20a8, "rs"),
    (0x2100, "a/c a/s c °c ℄ c/o c/u ɛ ℈ °f g h h h h ħ i i l l ℔ n no ℗ ℘ p q r r r ℞ ℟ sm tel"),
    (0x2122, "tm ℣ z ℥ ω ℧ z ℩ k å b c ℮ e e f ⅎ m o \u05d0 \u05d1 \u05d2 \u05d3 i ℺ fax π γ γ"),
    (0x213f, "π ∑"),
    (0x2145, "d d e i j"),
    (0x2150, "1⁄7 1⁄9 1⁄10 1⁄3 2⁄3 1⁄5 2⁄5 3⁄5 4⁄5 1⁄6 5⁄6 1⁄8 3⁄8 5⁄8 7⁄8 1⁄ i ii iii iv v vi"),
    (0x2166, "vii viii ix x xi xii l c d m i ii iii iv v vi vii viii ix x xi xii l c d m"),
    (0x2183, "ↄ"),
    (0x2189, "0⁄3"),
    (0x222c, "∫∫ ∫∫∫ ∮ ∮∮ ∮∮∮"),
    (0x2329, "〈 〉"),
    (0x2460, "1 2 3 4 5 6 7 8 9 10 11 12 13 14 15 16 17 18 19 20 (1) (2) (3) (4) (5) (6) (7)"),
    (0x247b, "(8) (9) (10) (11) (12) (13) (14) (15) (16) (17) (18) (19) (20)"),
    (0x249c, "(a) (b) (c) (d) (e) (f) (g) (h) (i) (j) (k) (l) (m) (n) (o) (p) (q) (r) (s) (t)"),
    (0x24b0, "(u) (v) (w) (x) (y) (z) a b c d e f g h i j k l m n o p q r s t u v w x y z a b c"),
    (0x24d3, "d e f g h i j k l m n o p q r s t u v w x y z 0"),
    (0x2a0c, "∫∫∫∫"),
    (0x2a74, "::= == ==="),
    (0x2adc, "⫝\u0338"),
    (0x2c00, "ⰰ ⰱ ⰲ ⰳ ⰴ ⰵ ⰶ ⰷ ⰸ ⰹ ⰺ ⰻ ⰼ ⰽ ⰾ ⰿ ⱀ ⱁ ⱂ ⱃ ⱄ ⱅ ⱆ ⱇ ⱈ ⱉ ⱊ ⱋ ⱌ ⱍ ⱎ ⱏ ⱐ ⱑ ⱒ ⱓ ⱔ ⱕ ⱖ ⱗ ⱘ"),
    (0x2c29, "ⱙ ⱚ ⱛ ⱜ ⱝ ⱞ ⱟ"),
    (0x2c60, "ⱡ ⱡ ɫ ᵽ ɽ ⱥ ⱦ ⱨ ⱨ ⱪ ⱪ ⱬ ⱬ ɑ ɱ ɐ ɒ ⱱ ⱳ ⱳ ⱴ ⱶ"),
    (0x2c7c, "j v ȿ ɀ ⲁ ⲁ ⲃ ⲃ ⲅ ⲅ ⲇ ⲇ ⲉ ⲉ ⲋ ⲋ ⲍ ⲍ ⲏ ⲏ ⲑ ⲑ ⲓ ⲓ ⲕ ⲕ ⲗ ⲗ ⲙ ⲙ ⲛ ⲛ ⲝ ⲝ ⲟ ⲟ ⲡ ⲡ ⲣ ⲣ ⲥ"),
    (0x2ca5, "ⲥ ⲧ ⲧ ⲩ ⲩ ⲫ ⲫ ⲭ ⲭ ⲯ ⲯ ⲱ ⲱ ⲳ ⲳ ⲵ ⲵ ⲷ ⲷ ⲹ ⲹ ⲻ ⲻ ⲽ ⲽ ⲿ ⲿ ⳁ ⳁ ⳃ ⳃ ⳅ ⳅ ⳇ ⳇ ⳉ ⳉ ⳋ ⳋ ⳍ ⳍ"),
    (0x2cce, "ⳏ ⳏ ⳑ ⳑ ⳓ ⳓ ⳕ ⳕ ⳗ ⳗ ⳙ ⳙ ⳛ ⳛ ⳝ ⳝ ⳟ ⳟ ⳡ ⳡ ⳣ"),
    (0x2ceb, "ⳬ ⳬ ⳮ"),
    (0x2cf2, "ⳳ"),
    (0x2d6f, "ⵡ"),
    (0x2e9f, "母"),
    (0x2ef3, "龟"),
    (0x2f00, "一 丨 丶 丿 乙 亅 二 亠 人 儿 入 八 冂 冖 冫 几 凵 刀 力 勹 匕 匚 匸 十 卜 卩 厂 厶 又 口 囗 土 士 夂 夊 夕 大 女 子 宀 寸"),
    (0x2f29, "小 尢 尸 屮 山 巛 工 己 巾 干 幺 广 廴 廾 弋 弓 彐 彡 彳 心 戈 戶 手 支 攴 文 斗 斤 方 无 日 曰 月 木 欠 止 歹 殳 毋 比 毛"),
    (0x2f52, "氏 气 水 火 爪 父 爻 爿 片 牙 牛 犬 玄 玉 瓜 瓦 甘 生 用 田 疋 疒 癶 白 皮 皿 目 矛 矢 石 示 禸 禾 穴 立 竹 米 糸 缶 网 羊"),
    (0x2f7b, "羽 老 而 耒 耳 聿 肉 臣 自 至 臼 舌 舛 舟 艮 色 艸 虍 虫 血 行 衣 襾 見 角 言 谷 豆 豕 豸 貝 赤 走 足 身 車 辛 辰 辵 邑 酉"),
    (0x2fa4, "釆 里 金 長 門 阜 隶 隹 雨 靑 非 面 革 韋 韭 音 頁 風 飛 食 首 香 馬 骨 高 髟 鬥 鬯 鬲 鬼 魚 鳥 鹵 鹿 麥 麻 黃 黍 黑 黹 黽"),
    (0x2fcd, "鼎 鼓 鼠 鼻 齊 齒 龍 龜 龠"),
    (0x3002, "."),
    (0x3036, "〒 〷 十 卄 卅"),
    (0x309f, "より"),
    (0x30ff, "コト"),
    (0x3131, "ᄀ ᄁ ᆪ ᄂ ᆬ ᆭ ᄃ ᄄ ᄅ ᆰ ᆱ ᆲ ᆳ ᆴ ᆵ ᄚ ᄆ ᄇ ᄈ ᄡ ᄉ ᄊ ᄋ ᄌ ᄍ ᄎ ᄏ ᄐ ᄑ ᄒ ᅡ ᅢ ᅣ ᅤ ᅥ ᅦ ᅧ ᅨ ᅩ ᅪ ᅫ"),
    (0x315a, "ᅬ ᅭ ᅮ ᅯ ᅰ ᅱ ᅲ ᅳ ᅴ ᅵ ㅤ ᄔ ᄕ ᇇ ᇈ ᇌ ᇎ ᇓ ᇗ ᇙ ᄜ ᇝ ᇟ ᄝ ᄞ ᄠ ᄢ ᄣ ᄧ ᄩ ᄫ ᄬ ᄭ ᄮ ᄯ ᄲ ᄶ ᅀ ᅇ ᅌ ᇱ"),
    (0x3183, "ᇲ ᅗ ᅘ ᅙ ᆄ ᆅ ᆈ ᆑ ᆒ ᆔ ᆞ ᆡ"),
    (0x3192, "一 二 三 四 上 中 下 甲 乙 丙 丁 天 地 人"),
    (0x3200, "(ᄀ) (ᄂ) (ᄃ) (ᄅ) (ᄆ) (ᄇ) (ᄉ) (ᄋ) (ᄌ) (ᄎ) (ᄏ) (ᄐ) (ᄑ) (ᄒ) (가) (나) (다) (라) (마) (바)"),
    (0x3214, "(사) (아) (자) (차) (카) (타) (파) (하) (주) (오전) (오후) \u321f (一) (二) (三) (四) (五) (六) (七)"),
    (0x3227, "(八) (九) (十) (月) (火) (水) (木) (金) (土) (日) (株) (有) (社) (名) (特) (財) (祝) (労) (代) (呼)"),
    (0x323b, "(学) (監) (企) (資) (協) (祭) (休) (自) (至) 問 幼 文 箏"),
    (0x3250, "pte 21 22 23 24 25 26 27 28 29 30 31 32 33 34 35 ᄀ ᄂ ᄃ ᄅ ᄆ ᄇ ᄉ ᄋ ᄌ ᄎ ᄏ ᄐ ᄑ ᄒ 가 나"),
    (0x3270, "다 라 마 바 사 아 자 차 카 타 파 하 참고 주의 우 ㉿ 一 二 三 四 五 六 七 八 九 十 月 火 水 木 金 土 日 株 有 社 名 特 財 祝"),
    (0x3298, "労 秘 男 女 適 優 印 注 項 休 写 正 上 中 下 左 右 医 宗 学 監 企 資 協 夜 36 37 38 39 40 41 42 43 44 45"),
    (0x32bb, "46 47 48 49 50 1月 2月 3月 4月 5月 6月 7月 8月 9月 10月 11月 12月 hg erg ev ltd ア イ ウ エ オ カ キ"),
    (0x32d7, "ク ケ コ サ シ ス セ ソ タ チ ツ テ ト ナ ニ ヌ ネ ノ ハ ヒ フ ヘ ホ マ ミ ム メ モ ヤ ユ ヨ ラ リ ル レ ロ ワ ヰ ヱ ヲ"),
    (0x32ff, "令和 アパート アルファ アンペア アール イニング インチ ウォン エスクード エーカー オンス オーム カイリ カラット カロリー ガロン ガンマ ギガ"),
    (0x3311, "ギニー キュリー ギルダー キロ キログラム キロメートル キロワット グラム グラムトン クルゼイロ クローネ ケース コルナ コーポ サイクル サンチーム"),
    (0x3321, "シリング センチ セント ダース デシ ドル トン ナノ ノット ハイツ パーセント パーツ バーレル ピアストル ピクル ピコ ビル ファラッド フィート"),
    (0x3334, "ブッシェル フラン ヘクタール ペソ ペニヒ ヘルツ ペンス ページ ベータ ポイント ボルト ホン ポンド ホール ホーン マイクロ マイル マッハ マルク"),
    (0x3347, "マンション ミクロン ミリ ミリバール メガ メガトン メートル ヤード ヤール ユアン リットル リラ ルピー ルーブル レム レントゲン ワット 0点 1点"),
    (0x335a, "2点 3点 4点 5点 6点 7点 8点 9点 10点 11点 12点 13点 14点 15点 16点 17点 18点 19点 20点 21点 22点 23点"),
    (0x3370, "24点 hpa da au bar ov pc dm dm2 dm3 iu 平成 昭和 大正 明治 株式会社 pa na μa ma ka kb mb gb"),
    (0x3388, "cal kcal pf nf μf μg mg kg hz khz mhz ghz thz μl ml dl kl fm nm μm mm cm km mm2"),
    (0x33a0, "cm2 m2 km2 mm3 cm3 m3 km3 m∕s m∕s2 pa kpa mpa gpa rad rad∕s rad∕s2 ps ns μs ms pv"),
    (0x33b5, "nv μv mv kv mv pw nw μw mw kw mw kω mω ㏂ bq cc cd c∕kg ㏇ db gy ha hp in kk km kt"),
    (0x33d0, "lm ln log lx mb mil mol ph ㏘ ppm pr sr sv wb v∕m a∕m 1日 2日 3日 4日 5日 6日 7日 8日 9日"),
    (0x33e9, "10日 11日 12日 13日 14日 15日 16日 17日 18日 19日 20日 21日 22日 23日 24日 25日 26日 27日 28日 29日"),
    (0x33fd, "30日 31日 gal"),
    (0xa640, "ꙁ ꙁ ꙃ ꙃ ꙅ ꙅ ꙇ ꙇ ꙉ ꙉ ꙋ ꙋ ꙍ ꙍ ꙏ ꙏ ꙑ ꙑ ꙓ ꙓ ꙕ ꙕ ꙗ ꙗ ꙙ ꙙ ꙛ ꙛ ꙝ ꙝ ꙟ ꙟ ꙡ ꙡ ꙣ ꙣ ꙥ ꙥ ꙧ ꙧ ꙩ"),
    (0xa669, "ꙩ ꙫ ꙫ ꙭ"),
    (0xa680, "ꚁ ꚁ ꚃ ꚃ ꚅ ꚅ ꚇ ꚇ ꚉ ꚉ ꚋ ꚋ ꚍ ꚍ ꚏ ꚏ ꚑ ꚑ ꚓ ꚓ ꚕ ꚕ ꚗ ꚗ ꚙ ꚙ ꚛ ꚛ ъ ь"),
    (0xa722, "ꜣ ꜣ ꜥ ꜥ ꜧ ꜧ ꜩ ꜩ ꜫ ꜫ ꜭ ꜭ ꜯ"),
    (0xa732, "ꜳ ꜳ ꜵ ꜵ ꜷ ꜷ ꜹ ꜹ ꜻ ꜻ ꜽ ꜽ ꜿ ꜿ ꝁ ꝁ ꝃ ꝃ ꝅ ꝅ ꝇ ꝇ ꝉ ꝉ ꝋ ꝋ ꝍ ꝍ ꝏ ꝏ ꝑ ꝑ ꝓ ꝓ ꝕ ꝕ ꝗ ꝗ ꝙ ꝙ ꝛ"),
    (0xa75b, "ꝛ ꝝ ꝝ ꝟ ꝟ ꝡ ꝡ ꝣ ꝣ ꝥ ꝥ ꝧ ꝧ ꝩ ꝩ ꝫ ꝫ ꝭ ꝭ ꝯ ꝯ ꝯ"),
    (0xa779, "ꝺ ꝺ ꝼ ꝼ ᵹ ꝿ ꝿ ꞁ ꞁ ꞃ ꞃ ꞅ ꞅ ꞇ"),
    (0xa78b, "ꞌ ꞌ ɥ ꞎ ꞏ ꞑ ꞑ ꞓ"),
    (0xa796, "ꞗ ꞗ ꞙ ꞙ ꞛ ꞛ ꞝ ꞝ ꞟ ꞟ ꞡ ꞡ ꞣ ꞣ ꞥ ꞥ ꞧ ꞧ ꞩ ꞩ ɦ ɜ ɡ ɬ ɪ ꞯ ʞ ʇ ʝ ꭓ ꞵ ꞵ ꞷ ꞷ ꞹ ꞹ ꞻ ꞻ ꞽ ꞽ ꞿ"),
    (0xa7bf, "ꞿ ꟁ ꟁ ꟃ ꟃ ꞔ ʂ ᶎ ꟈ ꟈ ꟊ ꟊ ɤ ꟍ ꟍ ꟏ ꟏ ꟑ ꟑ ꟓ ꟓ ꟕ ꟕ ꟗ ꟗ ꟙ ꟙ ꟛ ꟛ ƛ"),
    (0xa7f1, "s c f q ꟶ ꟶ ꟷ ħ œ"),
    (0xab5c, "ꜧ ꬷ ɫ ꭒ"),
    (0xab69, "ʍ"),
    (0xab70, "Ꭰ Ꭱ Ꭲ Ꭳ Ꭴ Ꭵ Ꭶ Ꭷ Ꭸ Ꭹ Ꭺ Ꭻ Ꭼ Ꭽ Ꭾ Ꭿ Ꮀ Ꮁ Ꮂ Ꮃ Ꮄ Ꮅ Ꮆ Ꮇ Ꮈ Ꮉ Ꮊ Ꮋ Ꮌ Ꮍ Ꮎ Ꮏ Ꮐ Ꮑ Ꮒ Ꮓ Ꮔ Ꮕ Ꮖ Ꮗ Ꮘ"),
    (0xab99, "Ꮙ Ꮚ Ꮛ Ꮜ Ꮝ Ꮞ Ꮟ Ꮠ Ꮡ Ꮢ Ꮣ Ꮤ Ꮥ Ꮦ Ꮧ Ꮨ Ꮩ Ꮪ Ꮫ Ꮬ Ꮭ Ꮮ Ꮯ Ꮰ Ꮱ Ꮲ Ꮳ Ꮴ Ꮵ Ꮶ Ꮷ Ꮸ Ꮹ Ꮺ Ꮻ Ꮼ Ꮽ Ꮾ Ꮿ"),
    (0xf900, "豈 更 車 賈 滑 串 句 龜 龜 契 金 喇 奈 懶 癩 羅 蘿 螺 裸 邏 樂 洛 烙 珞 落 酪 駱 亂 卵 欄 爛 蘭 鸞 嵐 濫 藍 襤 拉 臘 蠟 廊"),
    (0xf929, "朗 浪 狼 郎 來 冷 勞 擄 櫓 爐 盧 老 蘆 虜 路 露 魯 鷺 碌 祿 綠 菉 錄 鹿 論 壟 弄 籠 聾 牢 磊 賂 雷 壘 屢 樓 淚 漏 累 縷 陋"),
    (0xf952, "勒 肋 凜 凌 稜 綾 菱 陵 讀 拏 樂 諾 丹 寧 怒 率 異 北 磻 便 復 不 泌 數 索 參 塞 省 葉 說 殺 辰 沈 拾 若 掠 略 亮 兩 凉 梁"),
    (0xf97b, "糧 良 諒 量 勵 呂 女 廬 旅 濾 礪 閭 驪 麗 黎 力 曆 歷 轢 年 憐 戀 撚 漣 煉 璉 秊 練 聯 輦 蓮 連 鍊 列 劣 咽 烈 裂 說 廉 念"),
    (0xf9a4, "捻 殮 簾 獵 令 囹 寧 嶺 怜 玲 瑩 羚 聆 鈴 零 靈 領 例 禮 醴 隸 惡 了 僚 寮 尿 料 樂 燎 療 蓼 遼 龍 暈 阮 劉 杻 柳 流 溜 琉"),
    (0xf9cd, "留 硫 紐 類 六 戮 陸 倫 崙 淪 輪 律 慄 栗 率 隆 利 吏 履 易 李 梨 泥 理 痢 罹 裏 裡 里 離 匿 溺 吝 燐 璘 藺 隣 鱗 麟 林 淋"),
    (0xf9f6, "臨 立 笠 粒 狀 炙 識 什 茶 刺 切 度 拓 糖 宅 洞 暴 輻 行 降 見 廓 兀 嗀 﨎 﨏 塚 﨑 晴 﨓 﨔 凞 猪 益 礼 神 祥 福 靖 精 羽"),
    (0xfa1f, "﨟 蘒 﨡 諸 﨣 﨤 逸 都"),
    (0xfa2a, "飯 飼 館 鶴 郞 隷 侮 僧 免 勉 勤 卑 喝 嘆 器 塀 墨 層 屮 悔 慨 憎 懲 敏 既 暑 梅 海 渚 漢 煮 爫 琢 碑 社 祉 祈 祐 祖 祝 禍"),
    (0xfa53, "禎 穀 突 節 練 縉 繁 署 者 臭 艹 艹 著 褐 視 謁 謹 賓 贈 辶 逸 難 響 頻 恵 𤋮 舘 \ufa6e \ufa6f 並 况 全 侀 充 冀 勇"),
    (0xfa77, "勺 喝 啕 喙 嗢 塚 墳 奄 奔 婢 嬨 廒 廙 彩 徭 惘 慎 愈 憎 慠 懲 戴 揄 搜 摒 敖 晴 朗 望 杖 歹 殺 流 滛 滋 漢 瀞 煮 瞧 爵 犯"),
    (0xfaa0, "猪 瑱 甆 画 瘝 瘟 益 盛 直 睊 着 磌 窱 節 类 絛 練 缾 者 荒 華 蝹 襁 覆 視 調 諸 請 謁 諾 諭 謹 變 贈 輸 遲 醙 鉶 陼 難 靖"),
    (0xfac9, "韛 響 頋 頻 鬒 龜 𢡊 𢡄 𣏕 㮝 䀘 䀹 𥉉 𥳐 𧻓 齃 龎"),
    (0xfb00, "ff fi fl ffi ffl st st"),
    (0xfb13, "մն մե մի վն մխ"),
    (0xfb1d, "\u05d9\u05b4 \ufb1e \u05f2\u05b7 \u05e2 \u05d0 \u05d3 \u05d4 \u05db \u05dc \u05dd"),
    (0xfb27, "\u05e8 \u05ea + \u05e9\u05c1 \u05e9\u05c2 \u05e9\u05bc\u05c1 \u05e9\u05bc\u05c2"),
    (0xfb2e, "\u05d0\u05b7 \u05d0\u05b8 \u05d0\u05bc \u05d1\u05bc \u05d2\u05bc \u05d3\u05bc"),
    (0xfb34, "\u05d4\u05bc \u05d5\u05bc \u05d6\u05bc \ufb37 \u05d8\u05bc \u05d9\u05bc"),
    (0xfb3a, "\u05da\u05bc \u05db\u05bc \u05dc\u05bc \ufb3d \u05de\u05bc \ufb3f \u05e0\u05bc"),
    (0xfb41, "\u05e1\u05bc \ufb42 \u05e3\u05bc \u05e4\u05bc \ufb45 \u05e6\u05bc \u05e7\u05bc"),
    (0xfb48, "\u05e8\u05bc \u05e9\u05bc \u05ea\u05bc \u05d5\u05b9 \u05d1\u05bf \u05db\u05bf"),
    (0xfb4e, "\u05e4\u05bf \u05d0\u05dc \u0671 \u0671 \u067b \u067b \u067b \u067b \u067e \u067e"),
    (0xfb58, "\u067e \u067e \u0680 \u0680 \u0680 \u0680 \u067a \u067a \u067a \u067a \u067f"),
    (0xfb63, "\u067f \u067f \u067f \u0679 \u0679 \u0679 \u0679 \u06a4 \u06a4 \u06a4 \u06a4"),
    (0xfb6e, "\u06a6 \u06a6 \u06a6 \u06a6 \u0684 \u0684 \u0684 \u0684 \u0683 \u0683 \u0683"),
    (0xfb79, "\u0683 \u0686 \u0686 \u0686 \u0686 \u0687 \u0687 \u0687 \u0687 \u068d \u068d"),
    (0xfb84, "\u068c \u068c \u068e \u068e \u0688 \u0688 \u0698 \u0698 \u0691 \u0691 \u06a9"),
    (0xfb8f, "\u06a9 \u06a9 \u06a9 \u06af \u06af \u06af \u06af \u06b3 \u06b3 \u06b3 \u06b3"),
    (0xfb9a, "\u06b1 \u06b1 \u06b1 \u06b1 \u06ba \u06ba \u06bb \u06bb \u06bb \u06bb \u06c0"),
    (0xfba5, "\u06c0 \u06c1 \u06c1 \u06c1 \u06c1 \u06be \u06be \u06be \u06be \u06d2 \u06d2"),
    (0xfbb0, "\u06d3 \u06d3"),
    (0xfbd3, "\u06ad \u06ad \u06ad \u06ad \u06c7 \u06c7 \u06c6 \u06c6 \u06c8 \u06c8"),
    (0xfbdd, "\u06c7\u0674 \u06cb \u06cb \u06c5 \u06c5 \u06c9 \u06c9 \u06d0 \u06d0 \u06d0"),
    (0xfbe7, "\u06d0 \u0649 \u0649 \u0626\u0627 \u0626\u0627 \u0626\u06d5 \u0626\u06d5"),
    (0xfbee, "\u0626\u0648 \u0626\u0648 \u0626\u06c7 \u0626\u06c7 \u0626\u06c6 \u0626\u06c6"),
    (0xfbf4, "\u0626\u06c8 \u0626\u06c8 \u0626\u06d0 \u0626\u06d0 \u0626\u06d0 \u0626\u0649"),
    (0xfbfa, "\u0626\u0649 \u0626\u0649 \u06cc \u06cc \u06cc \u06cc \u0626\u062c \u0626\u062d"),
    (0xfc02, "\u0626\u0645 \u0626\u0649 \u0626\u064a \u0628\u062c \u0628\u062d \u0628\u062e"),
    (0xfc08, "\u0628\u0645 \u0628\u0649 \u0628\u064a \u062a\u062c \u062a\u062d \u062a\u062e"),
    (0xfc0e, "\u062a\u0645 \u062a\u0649 \u062a\u064a \u062b\u062c \u062b\u0645 \u062b\u0649"),
    (0xfc14, "\u062b\u064a \u062c\u062d \u062c\u0645 \u062d\u062c \u062d\u0645 \u062e\u062c"),
    (0xfc1a, "\u062e\u062d \u062e\u0645 \u0633\u062c \u0633\u062d \u0633\u062e \u0633\u0645"),
    (0xfc20, "\u0635\u062d \u0635\u0645 \u0636\u062c \u0636\u062d \u0636\u062e \u0636\u0645"),
    (0xfc26, "\u0637\u062d \u0637\u0645 \u0638\u0645 \u0639\u062c \u0639\u0645 \u063a\u062c"),
    (0xfc2c, "\u063a\u0645 \u0641\u062c \u0641\u062d \u0641\u062e \u0641\u0645 \u0641\u0649"),
    (0xfc32, "\u0641\u064a \u0642\u062d \u0642\u0645 \u0642\u0649 \u0642\u064a \u0643\u0627"),
    (0xfc38, "\u0643\u062c \u0643\u062d \u0643\u062e \u0643\u0644 \u0643\u0645 \u0643\u0649"),
    (0xfc3e, "\u0643\u064a \u0644\u062c \u0644\u062d \u0644\u062e \u0644\u0645 \u0644\u0649"),
    (0xfc44, "\u0644\u064a \u0645\u062c \u0645\u062d \u0645\u062e \u0645\u0645 \u0645\u0649"),
    (0xfc4a, "\u0645\u064a \u0646\u062c \u0646\u062d \u0646\u062e \u0646\u0645 \u0646\u0649"),
    (0xfc50, "\u0646\u064a \u0647\u062c \u0647\u0645 \u0647\u0649 \u0647\u064a \u064a\u062c"),
    (0xfc56, "\u064a\u062d \u064a\u062e \u064a\u0645 \u064a\u0649 \u064a\u064a \u0630\u0670"),
    (0xfc5c, "\u0631\u0670 \u0649\u0670"),
    (0xfc64, "\u0626\u0631 \u0626\u0632 \u0626\u0645 \u0626\u0646 \u0626\u0649 \u0626\u064a"),
    (0xfc6a, "\u0628\u0631 \u0628\u0632 \u0628\u0645 \u0628\u0646 \u0628\u0649 \u0628\u064a"),
    (0xfc70, "\u062a\u0631 \u062a\u0632 \u062a\u0645 \u062a\u0646 \u062a\u0649 \u062a\u064a"),
    (0xfc76, "\u062b\u0631 \u062b\u0632 \u062b\u0645 \u062b\u0646 \u062b\u0649 \u062b\u064a"),
    (0xfc7c, "\u0641\u0649 \u0641\u064a \u0642\u0649 \u0642\u064a \u0643\u0627 \u0643\u0644"),
    (0xfc82, "\u0643\u0645 \u0643\u0649 \u0643\u064a \u0644\u0645 \u0644\u0649 \u0644\u064a"),
    (0xfc88, "\u0645\u0627 \u0645\u0645 \u0646\u0631 \u0646\u0632 \u0646\u0645 \u0646\u0646"),
    (0xfc8e, "\u0646\u0649 \u0646\u064a \u0649\u0670 \u064a\u0631 \u064a\u0632 \u064a\u0645"),
    (0xfc94, "\u064a\u0646 \u064a\u0649 \u064a\u064a \u0626\u062c \u0626\u062d \u0626\u062e"),
    (0xfc9a, "\u0626\u0645 \u0626\u0647 \u0628\u062c \u0628\u062d \u0628\u062e \u0628\u0645"),
    (0xfca0, "\u0628\u0647 \u062a\u062c \u062a\u062d \u062a\u062e \u062a\u0645 \u062a\u0647"),
    (0xfca6, "\u062b\u0645 \u062c\u062d \u062c\u0645 \u062d\u062c \u062d\u0645 \u062e\u062c"),
    (0xfcac, "\u062e\u0645 \u0633\u062c \u0633\u062d \u0633\u062e \u0633\u0645 \u0635\u062d"),
    (0xfcb2, "\u0635\u062e \u0635\u0645 \u0636\u062c \u0636\u062d \u0636\u062e \u0636\u0645"),
    (0xfcb8, "\u0637\u062d \u0638\u0645 \u0639\u062c \u0639\u0645 \u063a\u062c \u063a\u0645"),
    (0xfcbe, "\u0641\u062c \u0641\u062d \u0641\u062e \u0641\u0645 \u0642\u062d \u0642\u0645"),
    (0xfcc4, "\u0643\u062c \u0643\u062d \u0643\u062e \u0643\u0644 \u0643\u0645 \u0644\u062c"),
    (0xfcca, "\u0644\u062d \u0644\u062e \u0644\u0645 \u0644\u0647 \u0645\u062c \u0645\u062d"),
    (0xfcd0, "\u0645\u062e \u0645\u0645 \u0646\u062c \u0646\u062d \u0646\u062e \u0646\u0645"),
    (0xfcd6, "\u0646\u0647 \u0647\u062c \u0647\u0645 \u0647\u0670 \u064a\u062c \u064a\u062d"),
    (0xfcdc, "\u064a\u062e \u064a\u0645 \u064a\u0647 \u0626\u0645 \u0626\u0647 \u0628\u0645"),
    (0xfce2, "\u0628\u0647 \u062a\u0645 \u062a\u0647 \u062b\u0645 \u062b\u0647 \u0633\u0645"),
    (0xfce8, "\u0633\u0647 \u0634\u0645 \u0634\u0647 \u0643\u0644 \u0643\u0645 \u0644\u0645"),
    (0xfcee, "\u0646\u0645 \u0646\u0647 \u064a\u0645 \u064a\u0647 \u0640\u064e\u0651"),
    (0xfcf3, "\u0640\u064f\u0651 \u0640\u0650\u0651 \u0637\u0649 \u0637\u064a \u0639\u0649"),
    (0xfcf8, "\u0639\u064a \u063a\u0649 \u063a\u064a \u0633\u0649 \u0633\u064a \u0634\u0649"),
    (0xfcfe, "\u0634\u064a \u062d\u0649 \u062d\u064a \u062c\u0649 \u062c\u064a \u062e\u0649"),
    (0xfd04, "\u062e\u064a \u0635\u0649 \u0635\u064a \u0636\u0649 \u0636\u064a \u0634\u062c"),
    (0xfd0a, "\u0634\u062d \u0634\u062e \u0634\u0645 \u0634\u0631 \u0633\u0631 \u0635\u0631"),
    (0xfd10, "\u0636\u0631 \u0637\u0649 \u0637\u064a \u0639\u0649 \u0639\u064a \u063a\u0649"),
    (0xfd16, "\u063a\u064a \u0633\u0649 \u0633\u064a \u0634\u0649 \u0634\u064a \u062d\u0649"),
    (0xfd1c, "\u062d\u064a \u062c\u0649 \u062c\u064a \u062e\u0649 \u062e\u064a \u0635\u0649"),
    (0xfd22, "\u0635\u064a \u0636\u0649 \u0636\u064a \u0634\u062c \u0634\u062d \u0634\u062e"),
    (0xfd28, "\u0634\u0645 \u0634\u0631 \u0633\u0631 \u0635\u0631 \u0636\u0631 \u0634\u062c"),
    (0xfd2e, "\u0634\u062d \u0634\u062e \u0634\u0645 \u0633\u0647 \u0634\u0647 \u0637\u0645"),
    (0xfd34, "\u0633\u062c \u0633\u062d \u0633\u062e \u0634\u062c \u0634\u062d \u0634\u062e"),
    (0xfd3a, "\u0637\u0645 \u0638\u0645 \u0627\u064b \u0627\u064b"),
    (0xfd50, "\u062a\u062c\u0645 \u062a\u062d\u062c \u062a\u062d\u062c \u062a\u062d\u0645"),
    (0xfd54, "\u062a\u062e\u0645 \u062a\u0645\u062c \u062a\u0645\u062d \u062a\u0645\u062e"),
    (0xfd58, "\u062c\u0645\u062d \u062c\u0645\u062d \u062d\u0645\u064a \u062d\u0645\u0649"),
    (0xfd5c, "\u0633\u062d\u062c \u0633\u062c\u062d \u0633\u062c\u0649 \u0633\u0645\u062d"),
    (0xfd60, "\u0633\u0645\u062d \u0633\u0645\u062c \u0633\u0645\u0645 \u0633\u0645\u0645"),
    (0xfd64, "\u0635\u062d\u062d \u0635\u062d\u062d \u0635\u0645\u0645 \u0634\u062d\u0645"),
    (0xfd68, "\u0634\u062d\u0645 \u0634\u062c\u064a \u0634\u0645\u062e \u0634\u0645\u062e"),
    (0xfd6c, "\u0634\u0645\u0645 \u0634\u0645\u0645 \u0636\u062d\u0649 \u0636\u062e\u0645"),
    (0xfd70, "\u0636\u062e\u0645 \u0637\u0645\u062d \u0637\u0645\u062d \u0637\u0645\u0645"),
    (0xfd74, "\u0637\u0645\u064a \u0639\u062c\u0645 \u0639\u0645\u0645 \u0639\u0645\u0645"),
    (0xfd78, "\u0639\u0645\u0649 \u063a\u0645\u0645 \u063a\u0645\u064a \u063a\u0645\u0649"),
    (0xfd7c, "\u0641\u062e\u0645 \u0641\u062e\u0645 \u0642\u0645\u062d \u0642\u0645\u0645"),
    (0xfd80, "\u0644\u062d\u0645 \u0644\u062d\u064a \u0644\u062d\u0649 \u0644\u062c\u062c"),
    (0xfd84, "\u0644\u062c\u062c \u0644\u062e\u0645 \u0644\u062e\u0645 \u0644\u0645\u062d"),
    (0xfd88, "\u0644\u0645\u062d \u0645\u062d\u062c \u0645\u062d\u0645 \u0645\u062d\u064a"),
    (0xfd8c, "\u0645\u062c\u062d \u0645\u062c\u0645 \u0645\u062e\u062c \u0645\u062e\u0645 ﶐ ﶑"),
    (0xfd92, "\u0645\u062c\u062e \u0647\u0645\u062c \u0647\u0645\u0645 \u0646\u062d\u0645"),
    (0xfd96, "\u0646\u062d\u0649 \u0646\u062c\u0645 \u0646\u062c\u0645 \u0646\u062c\u0649"),
    (0xfd9a, "\u0646\u0645\u064a \u0646\u0645\u0649 \u064a\u0645\u0645 \u064a\u0645\u0645"),
    (0xfd9e, "\u0628\u062e\u064a \u062a\u062c\u064a \u062a\u062c\u0649 \u062a\u062e\u064a"),
    (0xfda2, "\u062a\u062e\u0649 \u062a\u0645\u064a \u062a\u0645\u0649 \u062c\u0645\u064a"),
    (0xfda6, "\u062c\u062d\u0649 \u062c\u0645\u0649 \u0633\u062e\u0649 \u0635\u062d\u064a"),
    (0xfdaa, "\u0634\u062d\u064a \u0636\u062d\u064a \u0644\u062c\u064a \u0644\u0645\u064a"),
    (0xfdae, "\u064a\u062d\u064a \u064a\u062c\u064a \u064a\u0645\u064a \u0645\u0645\u064a"),
    (0xfdb2, "\u0642\u0645\u064a \u0646\u062d\u064a \u0642\u0645\u062d \u0644\u062d\u0645"),
    (0xfdb6, "\u0639\u0645\u064a \u0643\u0645\u064a \u0646\u062c\u062d \u0645\u062e\u064a"),
    (0xfdba, "\u0644\u062c\u0645 \u0643\u0645\u0645 \u0644\u062c\u0645 \u0646\u062c\u062d"),
    (0xfdbe, "\u062c\u062d\u064a \u062d\u062c\u064a \u0645\u062c\u064a \u0641\u0645\u064a"),
    (0xfdc2, "\u0628\u062d\u064a \u0643\u0645\u0645 \u0639\u062c\u0645 \u0635\u0645\u0645"),
    (0xfdc6, "\u0633\u062e\u064a \u0646\u062c\u064a"),
    (0xfdf0, "\u0635\u0644\u06d2 \u0642\u0644\u06d2 \u0627\u0644\u0644\u0647"),
    (0xfdf3, "\u0627\u0643\u0628\u0631 \u0645\u062d\u0645\u062f \u0635\u0644\u0639\u0645"),
    (0xfdf6, "\u0631\u0633\u0648\u0644 \u0639\u0644\u064a\u0647 \u0648\u0633\u0644\u0645"),
    (0xfdf9, "\u0635\u0644\u0649 \ufdfa \ufdfb \u0631\u06cc\u0627\u0644"),
    (0xfe10, ", 、 ︒ : ; ! ? 〖 〗"),
    (0xfe31, "— – _ _ ( ) \x7b \x7d 〔 〕 【 】 《 》 〈 〉 「 」 『 』 ﹅ ﹆ [ ]"),
    (0xfe4d, "_ _ _ , 、 ﹒ \ufe53 ; : ? ! — ( ) \x7b \x7d 〔 〕 # & * + - < > = \ufe67 \\ $ % @"),
    (0xfe71, "\u0640\u064b"),
    (0xfe77, "\u0640\u064e \ufe78 \u0640\u064f \ufe7a \u0640\u0650 \ufe7c \u0640\u0651 \ufe7e"),
    (0xfe7f, "\u0640\u0652 \u0621 \u0622 \u0622 \u0623 \u0623 \u0624 \u0624 \u0625 \u0625"),
    (0xfe89, "\u0626 \u0626 \u0626 \u0626 \u0627 \u0627 \u0628 \u0628 \u0628 \u0628 \u0629"),
    (0xfe94, "\u0629 \u062a \u062a \u062a \u062a \u062b \u062b \u062b \u062b \u062c \u062c"),
    (0xfe9f, "\u062c \u062c \u062d \u062d \u062d \u062d \u062e \u062e \u062e \u062e \u062f"),
    (0xfeaa, "\u062f \u0630 \u0630 \u0631 \u0631 \u0632 \u0632 \u0633 \u0633 \u0633 \u0633"),
    (0xfeb5, "\u0634 \u0634 \u0634 \u0634 \u0635 \u0635 \u0635 \u0635 \u0636 \u0636 \u0636"),
    (0xfec0, "\u0636 \u0637 \u0637 \u0637 \u0637 \u0638 \u0638 \u0638 \u0638 \u0639 \u0639"),
    (0xfecb, "\u0639 \u0639 \u063a \u063a \u063a \u063a \u0641 \u0641 \u0641 \u0641 \u0642"),
    (0xfed6, "\u0642 \u0642 \u0642 \u0643 \u0643 \u0643 \u0643 \u0644 \u0644 \u0644 \u0644"),
    (0xfee1, "\u0645 \u0645 \u0645 \u0645 \u0646 \u0646 \u0646 \u0646 \u0647 \u0647 \u0647"),
    (0xfeec, "\u0647 \u0648 \u0648 \u0649 \u0649 \u064a \u064a \u064a \u064a \u0644\u0622"),
    (0xfef6, "\u0644\u0622 \u0644\u0623 \u0644\u0623 \u0644\u0625 \u0644\u0625 \u0644\u0627"),
    (0xfefc, "\u0644\u0627"),
    (0xff01, "! \" # $ % & \x27 ( ) * + , - . / 0 1 2 3 4 5 6 7 8 9 : ; < = > ? @ a b c d e f g"),
    (0xff28, "h i j k l m n o p q r s t u v w x y z [ \\ ] ^ _ \x60 a b c d e f g h i j k l m n"),
    (0xff4f, "o p q r s t u v w x y z \x7b | \x7d ~ ⦅ ⦆ . 「 」 、 ・ ヲ ァ ィ ゥ ェ ォ ャ ュ ョ ッ ー ア イ ウ エ"),
    (0xff75, "オ カ キ ク ケ コ サ シ ス セ ソ タ チ ツ テ ト ナ ニ ヌ ネ ノ ハ ヒ フ ヘ ホ マ ミ ム メ モ ヤ ユ ヨ ラ リ ル レ ロ ワ ン"),
    (0xff9e, "\u3099 \u309a ﾠ ᄀ ᄁ ᆪ ᄂ ᆬ ᆭ ᄃ ᄄ ᄅ ᆰ ᆱ ᆲ ᆳ ᆴ ᆵ ᄚ ᄆ ᄇ ᄈ ᄡ ᄉ ᄊ ᄋ ᄌ ᄍ ᄎ ᄏ ᄐ ᄑ ᄒ"),
    (0xffc2, "ᅡ ᅢ ᅣ ᅤ ᅥ ᅦ \uffc8 \uffc9 ᅧ ᅨ ᅩ ᅪ ᅫ ᅬ \uffd0 \uffd1 ᅭ ᅮ ᅯ ᅰ ᅱ ᅲ \uffd8 \uffd9 ᅳ ᅴ"),
    (0xffdc, "ᅵ"),
    (0xffe0, "¢ £ ¬ ￣ ¦ ¥ ₩ \uffe7 │ ← ↑ → ↓ ■ ○"),
    (0x10400, "𐐨 𐐩 𐐪 𐐫 𐐬 𐐭 𐐮 𐐯 𐐰 𐐱 𐐲 𐐳 𐐴 𐐵 𐐶 𐐷 𐐸 𐐹 𐐺 𐐻 𐐼 𐐽 𐐾 𐐿 𐑀 𐑁 𐑂 𐑃 𐑄 𐑅 𐑆 𐑇 𐑈 𐑉 𐑊 𐑋 𐑌 𐑍 𐑎 𐑏"),
    (0x104b0, "𐓘 𐓙 𐓚 𐓛 𐓜 𐓝 𐓞 𐓟 𐓠 𐓡 𐓢 𐓣 𐓤 𐓥 𐓦 𐓧 𐓨 𐓩 𐓪 𐓫 𐓬 𐓭 𐓮 𐓯 𐓰 𐓱 𐓲 𐓳 𐓴 𐓵 𐓶 𐓷 𐓸 𐓹 𐓺 𐓻"),
    (0x10570, "𐖗 𐖘 𐖙 𐖚 𐖛 𐖜 𐖝 𐖞 𐖟 𐖠 𐖡 𐕻 𐖣 𐖤 𐖥 𐖦 𐖧 𐖨 𐖩 𐖪 𐖫 𐖬 𐖭 𐖮 𐖯 𐖰 𐖱 𐖋 𐖳 𐖴 𐖵 𐖶 𐖷 𐖸 𐖹 𐖓 𐖻 𐖼"),
    (0x10781, "ː ˑ æ ʙ ɓ 𐞆 ʣ ꭦ ʥ ʤ ɖ ɗ ᶑ ɘ ɞ ʩ ɤ ɢ ɠ ʛ ħ ʜ ɧ ʄ ʪ ʫ ɬ 𝼄 ꞎ ɮ 𝼅 ʎ 𝼆 ø ɶ ɷ q ɺ 𝼈 ɽ"),
    (0x107a9, "ɾ ʀ ʨ ʦ ꭧ ʧ ʈ ⱱ 𐞱 ʏ ʡ ʢ ʘ ǀ ǁ ǂ 𝼊 𝼞"),
    (0x10c80, "𐳀 𐳁 𐳂 𐳃 𐳄 𐳅 𐳆 𐳇 𐳈 𐳉 𐳊 𐳋 𐳌 𐳍 𐳎 𐳏 𐳐 𐳑 𐳒 𐳓 𐳔 𐳕 𐳖 𐳗 𐳘 𐳙 𐳚 𐳛 𐳜 𐳝 𐳞 𐳟 𐳠 𐳡 𐳢 𐳣 𐳤 𐳥 𐳦 𐳧"),
    (0x10ca8, "𐳨 𐳩 𐳪 𐳫 𐳬 𐳭 𐳮 𐳯 𐳰 𐳱 𐳲"),
    (0x10d50, "𐵰 𐵱 𐵲 𐵳 𐵴 𐵵 𐵶 𐵷 𐵸 𐵹 𐵺 𐵻 𐵼 𐵽 𐵾 𐵿 𐶀 𐶁 𐶂 𐶃 𐶄 𐶅"),
    (0x118a0, "𑣀 𑣁 𑣂 𑣃 𑣄 𑣅 𑣆 𑣇 𑣈 𑣉 𑣊 𑣋 𑣌 𑣍 𑣎 𑣏 𑣐 𑣑 𑣒 𑣓 𑣔 𑣕 𑣖 𑣗 𑣘 𑣙 𑣚 𑣛 𑣜 𑣝 𑣞 𑣟"),
    (0x16e40, "𖹠 𖹡 𖹢 𖹣 𖹤 𖹥 𖹦 𖹧 𖹨 𖹩 𖹪 𖹫 𖹬 𖹭 𖹮 𖹯 𖹰 𖹱 𖹲 𖹳 𖹴 𖹵 𖹶 𖹷 𖹸 𖹹 𖹺 𖹻 𖹼 𖹽 𖹾 𖹿"),
    (0x16ea0, "𖺻 𖺼 𖺽 𖺾 𖺿 𖻀 𖻁 𖻂 𖻃 𖻄 𖻅 𖻆 𖻇 𖻈 𖻉 𖻊 𖻋 𖻌 𖻍 𖻎 𖻏 𖻐 𖻑 𖻒 𖻓"),
    (0x1ccd6, "a b c d e f g h i j k l m n o p q r s t u v w x y z 0 1 2 3 4 5 6 7 8 9"),
    (0x1d15e, "𝅗𝅥 𝅘𝅥 𝅘𝅥𝅮 𝅘𝅥𝅯 𝅘𝅥𝅰 𝅘𝅥𝅱 𝅘𝅥𝅲"),
    (0x1d1bb, "𝆹𝅥 𝆺𝅥 𝆹𝅥𝅮 𝆺𝅥𝅮 𝆹𝅥𝅯 𝆺𝅥𝅯"),
    (0x1d400, "a b c d e f g h i j k l m n o p q r s t u v w x y z a b c d e f g h i j k l m n"),
    (0x1d428, "o p q r s t u v w x y z a b c d e f g h i j k l m n o p q r s t u v w x y z a b"),
    (0x1d450, "c d e f g 𝑕 i j k l m n o p q r s t u v w x y z a b c d e f g h i j k l m n o p"),
    (0x1d478, "q r s t u v w x y z a b c d e f g h i j k l m n o p q r s t u v w x y z a 𝒝 c d"),
    (0x1d4a0, "𝒠 𝒡 g 𝒣 𝒤 j k 𝒧 𝒨 n o p q 𝒭 s t u v w x y z a b c d 𝒺 f 𝒼 h i j k l m n 𝓄 p q r"),
    (0x1d4c8, "s t u v w x y z a b c d e f g h i j k l m n o p q r s t u v w x y z a b c d e f"),
    (0x1d4f0, "g h i j k l m n o p q r s t u v w x y z a b 𝔆 d e f g 𝔋 𝔌 j k l m n o p q 𝔕 s t"),
    (0x1d518, "u v w x y 𝔝 a b c d e f g h i j k l m n o p q r s t u v w x y z a b 𝔺 d e f g 𝔿"),
    (0x1d540, "i j k l m 𝕅 o"),
    (0x1d54a, "s t u v w x y 𝕑 a b c d e f g h i j k l m n o p q r s t u v w x y z a b c d e f"),
    (0x1d572, "g h i j k l m n o p q r s t u v w x y z a b c d e f g h i j k l m n o p q r s t"),
    (0x1d59a, "u v w x y z a b c d e f g h i j k l m n o p q r s t u v w x y z a b c d e f g h"),
    (0x1d5c2, "i j k l m n o p q r s t u v w x y z a b c d e f g h i j k l m n o p q r s t u v"),
    (0x1d5ea, "w x y z a b c d e f g h i j k l m n o p q r s t u v w x y z a b c d e f g h i j"),
    (0x1d612, "k l m n o p q r s t u v w x y z a b c d e f g h i j k l m n o p q r s t u v w x"),
    (0x1d63a, "y z a b c d e f g h i j k l m n o p q r s t u v w x y z a b c d e f g h i j k l"),
    (0x1d662, "m n o p q r s t u v w x y z a b c d e f g h i j k l m n o p q r s t u v w x y z"),
    (0x1d68a, "a b c d e f g h i j k l m n o p q r s t u v w x y z ı ȷ 𝚦 𝚧 α β γ δ ε ζ η θ ι κ"),
    (0x1d6b2, "λ μ ν ξ ο π ρ θ σ τ υ φ χ ψ ω ∇ α β γ δ ε ζ η θ ι κ λ μ ν ξ ο π ρ σ σ τ υ φ χ ψ"),
    (0x1d6da, "ω ∂ ε θ κ φ ρ π α β γ δ ε ζ η θ ι κ λ μ ν ξ ο π ρ θ σ τ υ φ χ ψ ω ∇ α β γ δ ε ζ"),
    (0x1d702, "η θ ι κ λ μ ν ξ ο π ρ σ σ τ υ φ χ ψ ω ∂ ε θ κ φ ρ π α β γ δ ε ζ η θ ι κ λ μ ν ξ"),
    (0x1d72a, "ο π ρ θ σ τ υ φ χ ψ ω ∇ α β γ δ ε ζ η θ ι κ λ μ ν ξ ο π ρ σ σ τ υ φ χ ψ ω ∂ ε θ"),
    (0x1d752, "κ φ ρ π α β γ δ ε ζ η θ ι κ λ μ ν ξ ο π ρ θ σ τ υ φ χ ψ ω ∇ α β γ δ ε ζ η θ ι κ"),
    (0x1d77a, "λ μ ν ξ ο π ρ σ σ τ υ φ χ ψ ω ∂ ε θ κ φ ρ π α β γ δ ε ζ η θ ι κ λ μ ν ξ ο π ρ θ"),
    (0x1d7a2, "σ τ υ φ χ ψ ω ∇ α β γ δ ε ζ η θ ι κ λ μ ν ξ ο π ρ σ σ τ υ φ χ ψ ω ∂ ε θ κ φ ρ π"),
    (0x1d7ca, "ϝ ϝ 𝟌 𝟍 0 1 2 3 4 5 6 7 8 9 0 1 2 3 4 5 6 7 8 9 0 1 2 3 4 5 6 7 8 9 0 1 2 3 4 5"),
    (0x1d7f2, "6 7 8 9 0 1 2 3 4 5 6 7 8 9"),
    (0x1e030, "а б в г д е ж з и к л м о п р с т у ф х ц ч ш ы э ю ꚉ ә і ј ө ү ӏ а б в г д е ж"),
    (0x1e058, "з и к л о п с у ф х ц ч ш ъ ы ґ і ѕ џ ҫ ꙑ ұ"),
    (0x1e900, "𞤢 𞤣 𞤤 𞤥 𞤦 𞤧 𞤨 𞤩 𞤪 𞤫 𞤬 𞤭 𞤮 𞤯 𞤰 𞤱 𞤲 𞤳 𞤴 𞤵 𞤶 𞤷 𞤸 𞤹 𞤺 𞤻 𞤼 𞤽 𞤾 𞤿 𞥀 𞥁 𞥂 𞥃"),
    (0x1ee00, "\u0627 \u0628 \u062c \u062f 𞸄 \u0648 \u0632 \u062d \u0637 \u064a \u0643 \u0644"),
    (0x1ee0c, "\u0645 \u0646 \u0633 \u0639 \u0641 \u0635 \u0642 \u0631 \u0634 \u062a \u062b"),
    (0x1ee17, "\u062e \u0630 \u0636 \u0638 \u063a \u066e \u06ba \u06a1 \u066f 𞸠 \u0628 \u062c 𞸣"),
    (0x1ee24, "\u0647 𞸥 𞸦 \u062d 𞸨 \u064a \u0643 \u0644 \u0645 \u0646 \u0633 \u0639 \u0641"),
    (0x1ee31, "\u0635 \u0642 𞸳 \u0634 \u062a \u062b \u062e 𞸸 \u0636 𞸺 \u063a"),
    (0x1ee42, "\u062c"),
    (0x1ee47, "\u062d 𞹈 \u064a 𞹊 \u0644 𞹌 \u0646 \u0633 \u0639 𞹐 \u0635 \u0642 𞹓 \u0634 𞹕 𞹖"),
    (0x1ee57, "\u062e 𞹘 \u0636 𞹚 \u063a 𞹜 \u06ba 𞹞 \u066f 𞹠 \u0628 \u062c 𞹣 \u0647 𞹥 𞹦 \u062d"),
    (0x1ee68, "\u0637 \u064a \u0643 𞹫 \u0645 \u0646 \u0633 \u0639 \u0641 \u0635 \u0642 𞹳 \u0634"),
    (0x1ee75, "\u062a \u062b \u062e 𞹸 \u0636 \u0638 \u063a \u066e 𞹽 \u06a1 𞹿 \u0627 \u0628"),
    (0x1ee82, "\u062c \u062f \u0647 \u0648 \u0632 \u062d \u0637 \u064a 𞺊 \u0644 \u0645 \u0646"),
    (0x1ee8e, "\u0633 \u0639 \u0641 \u0635 \u0642 \u0631 \u0634 \u062a \u062b \u062e \u0630"),
    (0x1ee99, "\u0636 \u0638 \u063a"),
    (0x1eea1, "\u0628 \u062c \u062f 𞺤 \u0648 \u0632 \u062d \u0637 \u064a 𞺪 \u0644 \u0645 \u0646"),
    (0x1eeae, "\u0633 \u0639 \u0641 \u0635 \u0642 \u0631 \u0634 \u062a \u062b \u062e \u0630"),
    (0x1eeb9, "\u0636 \u0638 \u063a"),
    (0x1f101, "0, 1, 2, 3, 4, 5, 6, 7, 8, 9,"),
    (0x1f110, "(a) (b) (c) (d) (e) (f) (g) (h) (i) (j) (k) (l) (m) (n) (o) (p) (q) (r) (s) (t)"),
    (0x1f124, "(u) (v) (w) (x) (y) (z) 〔s〕 c r cd wz 🄯 a b c d e f g h i j k l m n o p q r s t"),
    (0x1f144, "u v w x y z hv mv sd ss ppv wc"),
    (0x1f16a, "mc md mr"),
    (0x1f190, "dj"),
    (0x1f200, "ほか ココ サ"),
    (0x1f210, "手 字 双 デ 二 多 解 天 交 映 無 料 前 後 再 新 初 終 生 販 声 吹 演 投 捕 一 三 遊 左 中 右 指 走 打 禁 空 合 満 有 月"),
    (0x1f238, "申 割 営 配"),
    (0x1f240, "〔本〕 〔三〕 〔二〕 〔安〕 〔点〕 〔打〕 〔盗〕 〔勝〕 〔敗〕"),
    (0x1f250, "得 可"),
    (0x1fbf0, "0 1 2 3 4 5 6 7 8 9"),
    (0x2f800, "丽 丸 乁 𠄢 你 侮 侻 倂 偺 備 僧 像 㒞 𠘺 免 兔 兤 具 𠔜 㒹 內 再 𠕋 冗 冤 仌 冬 况 𩇟 凵 刃 㓟 刻 剆 割 剷 㔕 勇 勉 勤"),
    (0x2f828, "勺 包 匆 北 卉 卑 博 即 卽 卿 卿 卿 𠨬 灰 及 叟 𠭣 叫 叱 吆 咞 吸 呈 周 咢 哶 唐 啓 啣 善 善 喙 喫 喳 嗂 圖 嘆 圗 噑 噴"),
    (0x2f850, "切 壮 城 埴 堍 型 堲 報 墬 𡓤 売 壷 夆 多 夢 奢 𡚨 𡛪 姬 娛 娧 姘 婦 㛮 㛼 嬈 嬾 嬾 𡧈 寃 寘 寧 寳 𡬘 寿 将 当 尢 㞁 屠"),
    (0x2f878, "屮 峀 岍 𡷤 嵃 𡷦 嵮 嵫 嵼 巡 巢 㠯 巽 帨 帽 幩 㡢 𢆃 㡼 庰 庳 庶 廊 𪎒 廾 𢌱 𢌱 舁 弢 弢 㣇 𣊸 𦇚 形 彫 㣣 徚 忍 志 忹"),
    (0x2f8a0, "悁 㤺 㤜 悔 𢛔 惇 慈 慌 慎 慌 慺 憎 憲 憤 憯 懞 懲 懶 成 戛 扝 抱 拔 捐 𢬌 挽 拼 捨 掃 揤 𢯱 搢 揅 掩 㨮 摩 摾 撝 摷 㩬"),
    (0x2f8c8, "敏 敬 𣀊 旣 書 晉 㬙 暑 㬈 㫤 冒 冕 最 暜 肭 䏙 朗 望 朡 杞 杓 𣏃 㭉 柺 枅 桒 梅 𣑭 梎 栟 椔 㮝 楂 榣 槪 檨 𣚣 櫛 㰘 次"),
    (0x2f8f0, "𣢧 歔 㱎 歲 殟 殺 殻 𣪍 𡴋 𣫺 汎 𣲼 沿 泍 汧 洖 派 海 流 浩 浸 涅 𣴞 洴 港 湮 㴳 滋 滇 𣻑 淹 潮 𣽞 𣾎 濆 瀹 瀞 瀛 㶖 灊"),
    (0x2f918, "災 灷 炭 𠔥 煅 𤉣 熜 𤎫 爨 爵 牐 𤘈 犀 犕 𤜵 𤠔 獺 王 㺬 玥 㺸 㺸 瑇 瑜 瑱 璅 瓊 㼛 甤 𤰶 甾 𤲒 異 𢆟 瘐 𤾡 𤾸 𥁄 㿼 䀈"),
    (0x2f940, "直 𥃳 𥃲 𥄙 𥄳 眞 真 真 睊 䀹 瞋 䁆 䂖 𥐝 硎 碌 磌 䃣 𥘦 祖 𥚚 𥛅 福 秫 䄯 穀 穊 穏 𥥼 𥪧 𥪧 竮 䈂 𥮫 篆 築 䈧 𥲀 糒 䊠"),
    (0x2f968, "糨 糣 紀 𥾆 絣 䌁 緇 縂 繅 䌴 𦈨 𦉇 䍙 𦋙 罺 𦌾 羕 翺 者 𦓚 𦔣 聠 𦖨 聰 𣍟 䏕 育 脃 䐋 脾 媵 𦞧 𦞵 𣎓 𣎜 舁 舄 辞 䑫 芑"),
    (0x2f990, "芋 芝 劳 花 芳 芽 苦 𦬼 若 茝 荣 莭 茣 莽 菧 著 荓 菊 菌 菜 𦰶 𦵫 𦳕 䔫 蓱 蓳 蔖 𧏊 蕤 𦼬 䕝 䕡 𦾱 𧃒 䕫 虐 虜 虧 虩 蚩"),
    (0x2f9b8, "蚈 蜎 蛢 蝹 蜨 蝫 螆 䗗 蟡 蠁 䗹 衠 衣 𧙧 裗 裞 䘵 裺 㒻 𧢮 𧥦 䚾 䛇 誠 諭 變 豕 𧲨 貫 賁 贛 起 𧼯 𠠄 跋 趼 跰 𠣞 軔 輸"),
    (0x2f9e0, "𨗒 𨗭 邔 郱 鄑 𨜮 鄛 鈸 鋗 鋘 鉼 鏹 鐕 𨯺 開 䦕 閷 𨵷 䧦 雃 嶲 霣 𩅅 𩈚 䩮 䩶 韠 𩐊 䪲 𩒖 頋 頋 頩 𩖶 飢 䬳 餩 馧 駂 駾"),
    (0x2fa08, "䯎 𩬰 鬒 鱀 鳽 䳎 䳭 鵧 𪃎 䳸 𪄅 𪈎 𪊑 麻 䵖 黹 黾 鼅 鼏 鼖 鼻 𪘀")]

/-- The rows with their words apart. -/
def readings : List (Nat × List (List Char)) :=
  rows.map fun (first, text) => (first, Text.pieces ' ' text.toList)

/-- The word of a row for a code point. -/
def wordIn? (n : Nat) (row : Nat × List (List Char)) : Option (List Char) :=
  if row.1 ≤ n then row.2[n - row.1]? else none

/-- The characters between which a joiner asks for another form of both, or for the same. -/
def isJoiner (c : Char) : Bool :=
  c = '\u200c' || c = '\u200d'

/-- No name has the character. -/
def isBarred (c : Char) : Bool :=
  !isJoiner c &&
    (Text.isUnseen c || Text.inRanges c.toNat barredRanges || Text.inRanges c.toNat blankedRanges)

/-- What a character is read as, if names may have it. -/
def read? (c : Char) : Option (List Char) :=
  if c.toNat < 0x80 then some [c.toLower]
  else if Text.inRanges c.toNat passedRanges then some []
  else if isBarred c then none
  else some ((readings.findSome? (wordIn? c.toNat)).getD [c])

end FrontDoor.Url.Folding
