-- SUMMARY: What becomes of the characters of a domain name.
import Switchboard.Text.Unprinted

/-!
# The mapping of domain names

Before a domain name is looked at, each of its characters is kept, left out,
replaced or refused. Capital letters become small ones, and characters that are
variants of others become those. What does not print is refused, and some more.
-/

namespace Switchboard.DomainMapping

/-- Ranges in which every second code point, from the first one on, is the capital
form of the next. -/
def alternating : List (Nat × Nat) := [
  (0x100, 0x12e), (0x139, 0x13d), (0x141, 0x147), (0x14a, 0x176), (0x179, 0x17d), (0x1a0, 0x1a4),
  (0x1cd, 0x1db), (0x1de, 0x1ee), (0x1f8, 0x21e), (0x222, 0x232), (0x246, 0x24e), (0x3d8, 0x3ee),
  (0x460, 0x480), (0x48a, 0x4be), (0x4c1, 0x4cd), (0x4d0, 0x52e), (0x1e00, 0x1e94),
  (0x1ea0, 0x1efe), (0x2c67, 0x2c6b), (0x2c80, 0x2ce2), (0xa640, 0xa66c), (0xa680, 0xa69a),
  (0xa722, 0xa72e), (0xa732, 0xa76e), (0xa77e, 0xa786), (0xa796, 0xa7a8), (0xa7b4, 0xa7c2),
  (0xa7cc, 0xa7da)]

/-- Ranges that are mapped to ranges: first and last code point, and the code point
that the first is mapped to. -/
def shifted : List (Nat × Nat × Nat) := [
  (0x41, 0x5a, 0x61), (0xc0, 0xd6, 0xe0), (0xd8, 0xde, 0xf8), (0x391, 0x3a1, 0x3b1),
  (0x3a3, 0x3ab, 0x3c3), (0x400, 0x40f, 0x450), (0x410, 0x42f, 0x430), (0x531, 0x556, 0x561),
  (0x10a0, 0x10c5, 0x2d00), (0x13f8, 0x13fd, 0x13f0), (0x1c90, 0x1cba, 0x10d0),
  (0x1d33, 0x1d3a, 0x67), (0x1dae, 0x1db1, 0x272), (0x1f08, 0x1f0f, 0x1f00),
  (0x1f18, 0x1f1d, 0x1f10), (0x1f28, 0x1f2f, 0x1f20), (0x1f38, 0x1f3f, 0x1f30),
  (0x1f48, 0x1f4d, 0x1f40), (0x1f68, 0x1f6f, 0x1f60), (0x2074, 0x2079, 0x34),
  (0x2080, 0x2089, 0x30), (0x2096, 0x2099, 0x6b), (0x2135, 0x2138, 0x5d0), (0x2460, 0x2468, 0x31),
  (0x24b6, 0x24cf, 0x61), (0x24d0, 0x24e9, 0x61), (0x2c00, 0x2c2f, 0x2c30),
  (0x313a, 0x313f, 0x11b0), (0x3145, 0x314e, 0x1109), (0x314f, 0x3163, 0x1161),
  (0x3178, 0x317c, 0x112b), (0x3269, 0x326d, 0x110e), (0x32e4, 0x32e9, 0x30ca),
  (0x32ee, 0x32f2, 0x30de), (0x32f5, 0x32fa, 0x30e8), (0x32fb, 0x32fe, 0x30ef),
  (0xab70, 0xabbf, 0x13a0), (0xfe41, 0xfe44, 0x300c), (0xff01, 0xff20, 0x21),
  (0xff21, 0xff3a, 0x61), (0xff3b, 0xff5e, 0x5b), (0xff85, 0xff8a, 0x30ca),
  (0xff8f, 0xff93, 0x30de), (0xff96, 0xff9b, 0x30e8), (0xffaa, 0xffaf, 0x11b0),
  (0xffb5, 0xffbe, 0x1109), (0xffc2, 0xffc7, 0x1161), (0xffca, 0xffcf, 0x1167),
  (0xffd2, 0xffd7, 0x116d), (0xffe9, 0xffec, 0x2190), (0x10400, 0x10427, 0x10428),
  (0x104b0, 0x104d3, 0x104d8), (0x10570, 0x1057a, 0x10597), (0x1057c, 0x1058a, 0x105a3),
  (0x1058c, 0x10592, 0x105b3), (0x10c80, 0x10cb2, 0x10cc0), (0x10d50, 0x10d65, 0x10d70),
  (0x118a0, 0x118bf, 0x118c0), (0x16e40, 0x16e5f, 0x16e60), (0x16ea0, 0x16eb8, 0x16ebb),
  (0x1ccd6, 0x1ccef, 0x61), (0x1ccf0, 0x1ccf9, 0x30), (0x1d400, 0x1d419, 0x61),
  (0x1d41a, 0x1d433, 0x61), (0x1d434, 0x1d44d, 0x61), (0x1d44e, 0x1d454, 0x61),
  (0x1d456, 0x1d467, 0x69), (0x1d468, 0x1d481, 0x61), (0x1d482, 0x1d49b, 0x61),
  (0x1d4a9, 0x1d4ac, 0x6e), (0x1d4ae, 0x1d4b5, 0x73), (0x1d4b6, 0x1d4b9, 0x61),
  (0x1d4bd, 0x1d4c3, 0x68), (0x1d4c5, 0x1d4cf, 0x70), (0x1d4d0, 0x1d4e9, 0x61),
  (0x1d4ea, 0x1d503, 0x61), (0x1d507, 0x1d50a, 0x64), (0x1d50d, 0x1d514, 0x6a),
  (0x1d516, 0x1d51c, 0x73), (0x1d51e, 0x1d537, 0x61), (0x1d53b, 0x1d53e, 0x64),
  (0x1d540, 0x1d544, 0x69), (0x1d54a, 0x1d550, 0x73), (0x1d552, 0x1d56b, 0x61),
  (0x1d56c, 0x1d585, 0x61), (0x1d586, 0x1d59f, 0x61), (0x1d5a0, 0x1d5b9, 0x61),
  (0x1d5ba, 0x1d5d3, 0x61), (0x1d5d4, 0x1d5ed, 0x61), (0x1d5ee, 0x1d607, 0x61),
  (0x1d608, 0x1d621, 0x61), (0x1d622, 0x1d63b, 0x61), (0x1d63c, 0x1d655, 0x61),
  (0x1d656, 0x1d66f, 0x61), (0x1d670, 0x1d689, 0x61), (0x1d68a, 0x1d6a3, 0x61),
  (0x1d6a8, 0x1d6b8, 0x3b1), (0x1d6ba, 0x1d6c0, 0x3c3), (0x1d6c2, 0x1d6d2, 0x3b1),
  (0x1d6d4, 0x1d6da, 0x3c3), (0x1d6e2, 0x1d6f2, 0x3b1), (0x1d6f4, 0x1d6fa, 0x3c3),
  (0x1d6fc, 0x1d70c, 0x3b1), (0x1d70e, 0x1d714, 0x3c3), (0x1d71c, 0x1d72c, 0x3b1),
  (0x1d72e, 0x1d734, 0x3c3), (0x1d736, 0x1d746, 0x3b1), (0x1d748, 0x1d74e, 0x3c3),
  (0x1d756, 0x1d766, 0x3b1), (0x1d768, 0x1d76e, 0x3c3), (0x1d770, 0x1d780, 0x3b1),
  (0x1d782, 0x1d788, 0x3c3), (0x1d790, 0x1d7a0, 0x3b1), (0x1d7a2, 0x1d7a8, 0x3c3),
  (0x1d7aa, 0x1d7ba, 0x3b1), (0x1d7bc, 0x1d7c2, 0x3c3), (0x1d7ce, 0x1d7d7, 0x30),
  (0x1d7d8, 0x1d7e1, 0x30), (0x1d7e2, 0x1d7eb, 0x30), (0x1d7ec, 0x1d7f5, 0x30),
  (0x1d7f6, 0x1d7ff, 0x30), (0x1e030, 0x1e038, 0x430), (0x1e03c, 0x1e046, 0x43e),
  (0x1e051, 0x1e059, 0x430), (0x1e05f, 0x1e064, 0x443), (0x1e900, 0x1e921, 0x1e922),
  (0x1ee0a, 0x1ee0d, 0x643), (0x1ee2a, 0x1ee2d, 0x643), (0x1f130, 0x1f149, 0x61),
  (0x1fbf0, 0x1fbf9, 0x30)]

/-- Texts that the code points from some number on are mapped to, one after the
other, with `|` between them. -/
def replaced : List (Nat × String) := [
  (0xa0, " "), (0xa8, " \u0308"), (0xaa, "a"), (0xaf, " \u0304"), (0xb2, "2|3| \u0301|μ"),
  (0xb8, " \u0327|1|o"), (0xbc, "1⁄4|1⁄2|3⁄4"), (0x130, "i\u0307"), (0x132, "ij|ij|ĵ"),
  (0x136, "ķ"), (0x13f, "l·|l·"), (0x149, "ʼn"), (0x178, "ÿ"), (0x17f, "s"), (0x181, "ɓ|ƃ"),
  (0x184, "ƅ"), (0x186, "ɔ|ƈ"), (0x189, "ɖ|ɗ|ƌ"), (0x18e, "ǝ|ə|ɛ|ƒ"), (0x193, "ɠ|ɣ"),
  (0x196, "ɩ|ɨ|ƙ"), (0x19c, "ɯ|ɲ"), (0x19f, "ɵ"), (0x1a6, "ʀ|ƨ"), (0x1a9, "ʃ"), (0x1ac, "ƭ"),
  (0x1ae, "ʈ|ư"), (0x1b1, "ʊ|ʋ|ƴ"), (0x1b5, "ƶ"), (0x1b7, "ʒ|ƹ"), (0x1bc, "ƽ"),
  (0x1c4, "dž|dž|dž|lj|lj|lj|nj|nj|nj"), (0x1f1, "dz|dz|dz|ǵ"), (0x1f6, "ƕ|ƿ"), (0x220, "ƞ"),
  (0x23a, "ⱥ|ȼ"), (0x23d, "ƚ|ⱦ"), (0x241, "ɂ"), (0x243, "ƀ|ʉ|ʌ"), (0x2b0, "h|ɦ|j|r|ɹ|ɻ|ʁ|w|y"),
  (0x2d8, " \u0306| \u0307| \u030a| \u0328| \u0303| \u030b"), (0x2e0, "ɣ|l|s|x|ʕ"),
  (0x340, "\u0300|\u0301"), (0x343, "\u0313|\u0308\u0301|ι"), (0x370, "ͱ"), (0x372, "ͳ"),
  (0x374, "ʹ"), (0x376, "ͷ"), (0x37a, " ι"), (0x37e, ";|ϳ"),
  (0x384, " \u0301| \u0308\u0301|ά|·|έ|ή|ί"), (0x38c, "ό"), (0x38e, "ύ|ώ"),
  (0x3cf, "ϗ|β|θ|υ|ύ|ϋ|φ|π"), (0x3f0, "κ|ρ|σ"), (0x3f4, "θ|ε"), (0x3f7, "ϸ"), (0x3f9, "σ|ϻ"),
  (0x3fd, "ͻ|ͼ|ͽ"), (0x4c0, "ӏ"), (0x587, "եւ"),
  (0x675, "\u0627\u0674|\u0648\u0674|\u06c7\u0674|\u064a\u0674"),
  (0x958, "क\u093c|ख\u093c|ग\u093c|ज\u093c|ड\u093c|ढ\u093c|फ\u093c|य\u093c"),
  (0x9dc, "ড\u09bc|ঢ\u09bc"), (0x9df, "য\u09bc"), (0xa33, "ਲ\u0a3c"), (0xa36, "ਸ\u0a3c"),
  (0xa59, "ਖ\u0a3c|ਗ\u0a3c|ਜ\u0a3c"), (0xa5e, "ਫ\u0a3c"), (0xb5c, "ଡ\u0b3c|ଢ\u0b3c"),
  (0xe33, "\u0e4dา"), (0xeb3, "\u0ecdາ"), (0xedc, "ຫນ|ຫມ"), (0xf0c, "་"), (0xf43, "ག\u0fb7"),
  (0xf4d, "ཌ\u0fb7"), (0xf52, "ད\u0fb7"), (0xf57, "བ\u0fb7"), (0xf5c, "ཛ\u0fb7"),
  (0xf69, "ཀ\u0fb5"), (0xf73, "\u0f71\u0f72"),
  (0xf75, "\u0f71\u0f74|\u0fb2\u0f80|\u0fb2\u0f71\u0f80|\u0fb3\u0f80"),
  (0xf79, "\u0fb3\u0f71\u0f80"), (0xf81, "\u0f71\u0f80"), (0xf93, "\u0f92\u0fb7"),
  (0xf9d, "\u0f9c\u0fb7"), (0xfa2, "\u0fa1\u0fb7"), (0xfa7, "\u0fa6\u0fb7"),
  (0xfac, "\u0fab\u0fb7"), (0xfb9, "\u0f90\u0fb5"), (0x10c7, "ⴧ"), (0x10cd, "ⴭ"), (0x10fc, "ნ"),
  (0x1c80, "в|д|о|с|т|т|ъ|ѣ|ꙋ|\u1c8a"), (0x1cbd, "ჽ|ჾ|ჿ"), (0x1d2c, "a|æ|b"), (0x1d30, "d|e|ǝ"),
  (0x1d3c, "o|ȣ|p|r|t|u|w|a|ɐ|ɑ|ᴂ|b|d|e|ə|ɛ|ɜ|g"),
  (0x1d4f, "k|m|ŋ|o|ɔ|ᴖ|ᴗ|p|t|u|ᴝ|ɯ|v|ᴥ|β|γ|δ|φ|χ|i|r|u|v|β|γ|ρ|φ|χ"), (0x1d78, "н"),
  (0x1d9b, "ɒ|c|ɕ|ð|ɜ|f|ɟ|ɡ|ɥ|ɨ|ɩ|ɪ|ᵻ|ʝ|ɭ|ᶅ|ʟ|ɱ|ɰ"), (0x1db2, "ɸ|ʂ|ʃ|ƫ|ʉ|ʊ|ᴜ|ʋ|ʌ|z|ʐ|ʑ|ʒ|θ"),
  (0x1e9a, "aʾ|ṡ"), (0x1e9e, "ß"), (0x1f59, "ὑ"), (0x1f5b, "ὓ"), (0x1f5d, "ὕ"), (0x1f5f, "ὗ"),
  (0x1f71, "ά"), (0x1f73, "έ"), (0x1f75, "ή"), (0x1f77, "ί"), (0x1f79, "ό"), (0x1f7b, "ύ"),
  (0x1f7d, "ώ"), (0x1f80, "ἀι|ἁι|ἂι|ἃι|ἄι|ἅι|ἆι|ἇι|ἀι|ἁι|ἂι|ἃι|ἄι|ἅι|ἆι|ἇι|ἠι|ἡι|ἢι|ἣι|ἤι|ἥι|ἦι"),
  (0x1f97, "ἧι|ἠι|ἡι|ἢι|ἣι|ἤι|ἥι|ἦι|ἧι|ὠι|ὡι|ὢι|ὣι|ὤι|ὥι|ὦι|ὧι|ὠι|ὡι|ὢι|ὣι|ὤι|ὥι"),
  (0x1fae, "ὦι|ὧι"), (0x1fb2, "ὰι|αι|άι"),
  (0x1fb7, "ᾶι|ᾰ|ᾱ|ὰ|ά|αι| \u0313|ι| \u0313| \u0342| \u0308\u0342|ὴι|ηι|ήι"),
  (0x1fc7, "ῆι|ὲ|έ|ὴ|ή|ηι| \u0313\u0300| \u0313\u0301| \u0313\u0342"), (0x1fd3, "ΐ"),
  (0x1fd8, "ῐ|ῑ|ὶ|ί"), (0x1fdd, " \u0314\u0300| \u0314\u0301| \u0314\u0342"), (0x1fe3, "ΰ"),
  (0x1fe8, "ῠ|ῡ|ὺ|ύ|ῥ| \u0308\u0300| \u0308\u0301|\x60"), (0x1ff2, "ὼι|ωι|ώι"),
  (0x1ff7, "ῶι|ὸ|ό|ὼ|ώ|ωι| \u0301| \u0314"), (0x2000, " | | | | | | | | | | "), (0x2011, "‐"),
  (0x2017, " \u0333"), (0x202f, " "), (0x2033, "′′|′′′"), (0x2036, "‵‵|‵‵‵"), (0x203c, "!!"),
  (0x203e, " \u0305"), (0x2047, "??|?!|!?"), (0x2057, "′′′′"), (0x205f, " "), (0x2070, "0|i"),
  (0x207a, "+|−|=|(|)|n"), (0x208a, "+|−|=|(|)"), (0x2090, "a|e|o|x|ə|h"), (0x209a, "p|s|t"),
  (0x20a8, "rs"), (0x2100, "a/c|a/s|c|°c"), (0x2105, "c/o|c/u|ɛ"),
  (0x2109, "°f|g|h|h|h|h|ħ|i|i|l|l"), (0x2115, "n|no"), (0x2119, "p|q|r|r|r"),
  (0x2120, "sm|tel|tm"), (0x2124, "z"), (0x2126, "ω"), (0x2128, "z"), (0x212a, "k|å|b|c"),
  (0x212f, "e|e|f|ⅎ|m|o"), (0x2139, "i"), (0x213b, "fax|π|γ|γ|π|∑"), (0x2145, "d|d|e|i|j"),
  (0x2150, "1⁄7|1⁄9|1⁄10|1⁄3|2⁄3|1⁄5|2⁄5|3⁄5|4⁄5|1⁄6|5⁄6|1⁄8|3⁄8|5⁄8|7⁄8|1⁄|i|ii"),
  (0x2162, "iii|iv|v|vi|vii|viii|ix|x|xi|xii|l|c|d|m|i|ii|iii|iv|v|vi|vii|viii|ix"),
  (0x2179, "x|xi|xii|l|c|d|m"), (0x2183, "ↄ"), (0x2189, "0⁄3"), (0x222c, "∫∫|∫∫∫"),
  (0x222f, "∮∮|∮∮∮"), (0x2329, "〈|〉"),
  (0x2469, "10|11|12|13|14|15|16|17|18|19|20|(1)|(2)|(3)|(4)|(5)|(6)|(7)|(8)|(9)"),
  (0x247d, "(10)|(11)|(12)|(13)|(14)|(15)|(16)|(17)|(18)|(19)|(20)"),
  (0x249c, "(a)|(b)|(c)|(d)|(e)|(f)|(g)|(h)|(i)|(j)|(k)|(l)|(m)|(n)|(o)|(p)|(q)"),
  (0x24ad, "(r)|(s)|(t)|(u)|(v)|(w)|(x)|(y)|(z)"), (0x24ea, "0"), (0x2a0c, "∫∫∫∫"),
  (0x2a74, "::=|==|==="), (0x2adc, "⫝\u0338"), (0x2c60, "ⱡ"), (0x2c62, "ɫ|ᵽ|ɽ"),
  (0x2c6d, "ɑ|ɱ|ɐ|ɒ"), (0x2c72, "ⱳ"), (0x2c75, "ⱶ"), (0x2c7c, "j|v|ȿ|ɀ"), (0x2ceb, "ⳬ"),
  (0x2ced, "ⳮ"), (0x2cf2, "ⳳ"), (0x2d6f, "ⵡ"), (0x2e9f, "母"), (0x2ef3, "龟"),
  (0x2f00, "一|丨|丶|丿|乙|亅|二|亠|人|儿|入|八|冂|冖|冫|几|凵|刀|力|勹|匕|匚|匸|十|卜|卩|厂|厶|又|口|囗|土|士|夂|夊"),
  (0x2f23, "夕|大|女|子|宀|寸|小|尢|尸|屮|山|巛|工|己|巾|干|幺|广|廴|廾|弋|弓|彐|彡|彳|心|戈|戶|手|支|攴|文|斗|斤|方"),
  (0x2f46, "无|日|曰|月|木|欠|止|歹|殳|毋|比|毛|氏|气|水|火|爪|父|爻|爿|片|牙|牛|犬|玄|玉|瓜|瓦|甘|生|用|田|疋|疒|癶"),
  (0x2f69, "白|皮|皿|目|矛|矢|石|示|禸|禾|穴|立|竹|米|糸|缶|网|羊|羽|老|而|耒|耳|聿|肉|臣|自|至|臼|舌|舛|舟|艮|色|艸"),
  (0x2f8c, "虍|虫|血|行|衣|襾|見|角|言|谷|豆|豕|豸|貝|赤|走|足|身|車|辛|辰|辵|邑|酉|釆|里|金|長|門|阜|隶|隹|雨|靑|非"),
  (0x2faf, "面|革|韋|韭|音|頁|風|飛|食|首|香|馬|骨|高|髟|鬥|鬯|鬲|鬼|魚|鳥|鹵|鹿|麥|麻|黃|黍|黑|黹|黽|鼎|鼓|鼠|鼻|齊"),
  (0x2fd2, "齒|龍|龜|龠"), (0x3000, " "), (0x3002, "."), (0x3036, "〒"), (0x3038, "十|卄|卅"),
  (0x309b, " \u3099| \u309a"), (0x309f, "より"), (0x30ff, "コト"), (0x3131, "ᄀ|ᄁ|ᆪ|ᄂ|ᆬ|ᆭ|ᄃ|ᄄ|ᄅ"),
  (0x3140, "ᄚ|ᄆ|ᄇ|ᄈ|ᄡ"), (0x3165, "ᄔ|ᄕ|ᇇ|ᇈ|ᇌ|ᇎ|ᇓ|ᇗ|ᇙ|ᄜ|ᇝ|ᇟ|ᄝ|ᄞ|ᄠ|ᄢ|ᄣ|ᄧ|ᄩ"),
  (0x317d, "ᄲ|ᄶ|ᅀ|ᅇ|ᅌ|ᇱ|ᇲ|ᅗ|ᅘ|ᅙ|ᆄ|ᆅ|ᆈ|ᆑ|ᆒ|ᆔ|ᆞ|ᆡ"), (0x3192, "一|二|三|四|上|中|下|甲|乙|丙|丁|天|地|人"),
  (0x3200, "(ᄀ)|(ᄂ)|(ᄃ)|(ᄅ)|(ᄆ)|(ᄇ)|(ᄉ)|(ᄋ)|(ᄌ)|(ᄎ)|(ᄏ)|(ᄐ)|(ᄑ)|(ᄒ)|(가)|(나)|(다)"),
  (0x3211, "(라)|(마)|(바)|(사)|(아)|(자)|(차)|(카)|(타)|(파)|(하)|(주)|(오전)|(오후)"),
  (0x3220, "(一)|(二)|(三)|(四)|(五)|(六)|(七)|(八)|(九)|(十)|(月)|(火)|(水)|(木)|(金)|(土)|(日)"),
  (0x3231, "(株)|(有)|(社)|(名)|(特)|(財)|(祝)|(労)|(代)|(呼)|(学)|(監)|(企)|(資)|(協)|(祭)|(休)"),
  (0x3242, "(自)|(至)|問|幼|文|箏"),
  (0x3250, "pte|21|22|23|24|25|26|27|28|29|30|31|32|33|34|35|ᄀ|ᄂ|ᄃ|ᄅ|ᄆ|ᄇ|ᄉ|ᄋ|ᄌ"),
  (0x326e, "가|나|다|라|마|바|사|아|자|차|카|타|파|하|참고|주의|우"),
  (0x3280, "一|二|三|四|五|六|七|八|九|十|月|火|水|木|金|土|日|株|有|社|名|特|財|祝|労|秘|男|女|適|優|印|注|項|休|写"),
  (0x32a3, "正|上|中|下|左|右|医|宗|学|監|企|資|協|夜|36|37|38|39|40|41|42|43|44|45|46|47|48|49"),
  (0x32bf, "50|1月|2月|3月|4月|5月|6月|7月|8月|9月|10月|11月|12月|hg|erg|ev|ltd|ア|イ|ウ|エ|オ|カ|キ"),
  (0x32d7, "ク|ケ|コ|サ|シ|ス|セ|ソ|タ|チ|ツ|テ|ト"), (0x32ea, "ヒ|フ|ヘ|ホ"), (0x32f3, "ヤ|ユ"),
  (0x32ff, "令和|アパート|アルファ|アンペア|アール|イニング|インチ|ウォン|エスクード|エーカー|オンス|オーム|カイリ|カラット|カロリー"),
  (0x330e, "ガロン|ガンマ|ギガ|ギニー|キュリー|ギルダー|キロ|キログラム|キロメートル|キロワット|グラム|グラムトン|クルゼイロ|クローネ"),
  (0x331c, "ケース|コルナ|コーポ|サイクル|サンチーム|シリング|センチ|セント|ダース|デシ|ドル|トン|ナノ|ノット|ハイツ|パーセント|パーツ"),
  (0x332d, "バーレル|ピアストル|ピクル|ピコ|ビル|ファラッド|フィート|ブッシェル|フラン|ヘクタール|ペソ|ペニヒ|ヘルツ|ペンス|ページ|ベータ"),
  (0x333d, "ポイント|ボルト|ホン|ポンド|ホール|ホーン|マイクロ|マイル|マッハ|マルク|マンション|ミクロン|ミリ|ミリバール|メガ|メガトン"),
  (0x334d, "メートル|ヤード|ヤール|ユアン|リットル|リラ|ルピー|ルーブル|レム|レントゲン|ワット|0点|1点|2点|3点|4点|5点|6点|7点"),
  (0x3360, "8点|9点|10点|11点|12点|13点|14点|15点|16点|17点|18点|19点|20点|21点|22点|23点|24点|hpa"),
  (0x3372, "da|au|bar|ov|pc|dm|dm2|dm3|iu|平成|昭和|大正|明治|株式会社|pa|na|μa|ma|ka|kb|mb|gb"),
  (0x3388, "cal|kcal|pf|nf|μf|μg|mg|kg|hz|khz|mhz|ghz|thz|μl|ml|dl|kl|fm|nm|μm|mm"),
  (0x339d, "cm|km|mm2|cm2|m2|km2|mm3|cm3|m3|km3|m∕s|m∕s2|pa|kpa|mpa|gpa|rad|rad∕s"),
  (0x33af, "rad∕s2|ps|ns|μs|ms|pv|nv|μv|mv|kv|mv|pw|nw|μw|mw|kw|mw|kω|mω"),
  (0x33c3, "bq|cc|cd|c∕kg"), (0x33c8, "db|gy|ha|hp|in|kk|km|kt|lm|ln|log|lx|mb|mil|mol|ph"),
  (0x33d9, "ppm|pr|sr|sv|wb|v∕m|a∕m|1日|2日|3日|4日|5日|6日|7日|8日|9日|10日|11日|12日|13日|14日"),
  (0x33ee, "15日|16日|17日|18日|19日|20日|21日|22日|23日|24日|25日|26日|27日|28日|29日|30日|31日"),
  (0x33ff, "gal"), (0xa69c, "ъ|ь"), (0xa770, "ꝯ"), (0xa779, "ꝺ"), (0xa77b, "ꝼ"), (0xa77d, "ᵹ"),
  (0xa78b, "ꞌ"), (0xa78d, "ɥ"), (0xa790, "ꞑ"), (0xa792, "ꞓ"), (0xa7aa, "ɦ|ɜ|ɡ|ɬ|ɪ"),
  (0xa7b0, "ʞ|ʇ|ʝ|ꭓ"), (0xa7c4, "ꞔ|ʂ|ᶎ|ꟈ"), (0xa7c9, "ꟊ"), (0xa7cb, "ɤ"), (0xa7dc, "ƛ"),
  (0xa7f1, "s|c|f|q|ꟶ"), (0xa7f8, "ħ|œ"), (0xab5c, "ꜧ|ꬷ|ɫ|ꭒ"), (0xab69, "ʍ"),
  (0xf900, "豈|更|車|賈|滑|串|句|龜|龜|契|金|喇|奈|懶|癩|羅|蘿|螺|裸|邏|樂|洛|烙|珞|落|酪|駱|亂|卵|欄|爛|蘭|鸞|嵐|濫"),
  (0xf923, "藍|襤|拉|臘|蠟|廊|朗|浪|狼|郎|來|冷|勞|擄|櫓|爐|盧|老|蘆|虜|路|露|魯|鷺|碌|祿|綠|菉|錄|鹿|論|壟|弄|籠|聾"),
  (0xf946, "牢|磊|賂|雷|壘|屢|樓|淚|漏|累|縷|陋|勒|肋|凜|凌|稜|綾|菱|陵|讀|拏|樂|諾|丹|寧|怒|率|異|北|磻|便|復|不|泌"),
  (0xf969, "數|索|參|塞|省|葉|說|殺|辰|沈|拾|若|掠|略|亮|兩|凉|梁|糧|良|諒|量|勵|呂|女|廬|旅|濾|礪|閭|驪|麗|黎|力|曆"),
  (0xf98c, "歷|轢|年|憐|戀|撚|漣|煉|璉|秊|練|聯|輦|蓮|連|鍊|列|劣|咽|烈|裂|說|廉|念|捻|殮|簾|獵|令|囹|寧|嶺|怜|玲|瑩"),
  (0xf9af, "羚|聆|鈴|零|靈|領|例|禮|醴|隸|惡|了|僚|寮|尿|料|樂|燎|療|蓼|遼|龍|暈|阮|劉|杻|柳|流|溜|琉|留|硫|紐|類|六"),
  (0xf9d2, "戮|陸|倫|崙|淪|輪|律|慄|栗|率|隆|利|吏|履|易|李|梨|泥|理|痢|罹|裏|裡|里|離|匿|溺|吝|燐|璘|藺|隣|鱗|麟|林"),
  (0xf9f5, "淋|臨|立|笠|粒|狀|炙|識|什|茶|刺|切|度|拓|糖|宅|洞|暴|輻|行|降|見|廓|兀|嗀"), (0xfa10, "塚"), (0xfa12, "晴"),
  (0xfa15, "凞|猪|益|礼|神|祥|福|靖|精|羽"), (0xfa20, "蘒"), (0xfa22, "諸"), (0xfa25, "逸|都"),
  (0xfa2a, "飯|飼|館|鶴|郞|隷|侮|僧|免|勉|勤|卑|喝|嘆|器|塀|墨|層|屮|悔|慨|憎|懲|敏|既|暑|梅|海|渚|漢|煮|爫|琢|碑|社"),
  (0xfa4d, "祉|祈|祐|祖|祝|禍|禎|穀|突|節|練|縉|繁|署|者|臭|艹|艹|著|褐|視|謁|謹|賓|贈|辶|逸|難|響|頻|恵|𤋮|舘"),
  (0xfa70, "並|况|全|侀|充|冀|勇|勺|喝|啕|喙|嗢|塚|墳|奄|奔|婢|嬨|廒|廙|彩|徭|惘|慎|愈|憎|慠|懲|戴|揄|搜|摒|敖|晴|朗"),
  (0xfa93, "望|杖|歹|殺|流|滛|滋|漢|瀞|煮|瞧|爵|犯|猪|瑱|甆|画|瘝|瘟|益|盛|直|睊|着|磌|窱|節|类|絛|練|缾|者|荒|華|蝹"),
  (0xfab6, "襁|覆|視|調|諸|請|謁|諾|諭|謹|變|贈|輸|遲|醙|鉶|陼|難|靖|韛|響|頋|頻|鬒|龜|𢡊|𢡄|𣏕|㮝|䀘|䀹|𥉉|𥳐|𧻓|齃"),
  (0xfad9, "龎"), (0xfb00, "ff|fi|fl|ffi|ffl|st|st"), (0xfb13, "մն|մե|մի|վն|մխ"),
  (0xfb1d, "\u05d9\u05b4"),
  (0xfb1f, "\u05f2\u05b7|\u05e2|\u05d0|\u05d3|\u05d4|\u05db|\u05dc|\u05dd|\u05e8"),
  (0xfb28, "\u05ea|+|\u05e9\u05c1|\u05e9\u05c2|\u05e9\u05bc\u05c1"),
  (0xfb2d, "\u05e9\u05bc\u05c2|\u05d0\u05b7|\u05d0\u05b8|\u05d0\u05bc|\u05d1\u05bc"),
  (0xfb32, "\u05d2\u05bc|\u05d3\u05bc|\u05d4\u05bc|\u05d5\u05bc|\u05d6\u05bc"),
  (0xfb38, "\u05d8\u05bc|\u05d9\u05bc|\u05da\u05bc|\u05db\u05bc|\u05dc\u05bc"),
  (0xfb3e, "\u05de\u05bc"), (0xfb40, "\u05e0\u05bc|\u05e1\u05bc"),
  (0xfb43, "\u05e3\u05bc|\u05e4\u05bc"),
  (0xfb46, "\u05e6\u05bc|\u05e7\u05bc|\u05e8\u05bc|\u05e9\u05bc|\u05ea\u05bc"),
  (0xfb4b, "\u05d5\u05b9|\u05d1\u05bf|\u05db\u05bf|\u05e4\u05bf|\u05d0\u05dc"),
  (0xfb50, "\u0671|\u0671|\u067b|\u067b|\u067b|\u067b|\u067e|\u067e|\u067e|\u067e"),
  (0xfb5a, "\u0680|\u0680|\u0680|\u0680|\u067a|\u067a|\u067a|\u067a|\u067f|\u067f"),
  (0xfb64, "\u067f|\u067f|\u0679|\u0679|\u0679|\u0679|\u06a4|\u06a4|\u06a4|\u06a4"),
  (0xfb6e, "\u06a6|\u06a6|\u06a6|\u06a6|\u0684|\u0684|\u0684|\u0684|\u0683|\u0683"),
  (0xfb78, "\u0683|\u0683|\u0686|\u0686|\u0686|\u0686|\u0687|\u0687|\u0687|\u0687"),
  (0xfb82, "\u068d|\u068d|\u068c|\u068c|\u068e|\u068e|\u0688|\u0688|\u0698|\u0698"),
  (0xfb8c, "\u0691|\u0691|\u06a9|\u06a9|\u06a9|\u06a9|\u06af|\u06af|\u06af|\u06af"),
  (0xfb96, "\u06b3|\u06b3|\u06b3|\u06b3|\u06b1|\u06b1|\u06b1|\u06b1|\u06ba|\u06ba"),
  (0xfba0, "\u06bb|\u06bb|\u06bb|\u06bb|\u06c0|\u06c0|\u06c1|\u06c1|\u06c1|\u06c1"),
  (0xfbaa, "\u06be|\u06be|\u06be|\u06be|\u06d2|\u06d2|\u06d3|\u06d3"),
  (0xfbd3, "\u06ad|\u06ad|\u06ad|\u06ad|\u06c7|\u06c7|\u06c6|\u06c6|\u06c8|\u06c8"),
  (0xfbdd, "\u06c7\u0674|\u06cb|\u06cb|\u06c5|\u06c5|\u06c9|\u06c9|\u06d0|\u06d0"),
  (0xfbe6, "\u06d0|\u06d0|\u0649|\u0649|\u0626\u0627|\u0626\u0627|\u0626\u06d5"),
  (0xfbed, "\u0626\u06d5|\u0626\u0648|\u0626\u0648|\u0626\u06c7|\u0626\u06c7"),
  (0xfbf2, "\u0626\u06c6|\u0626\u06c6|\u0626\u06c8|\u0626\u06c8|\u0626\u06d0"),
  (0xfbf7, "\u0626\u06d0|\u0626\u06d0|\u0626\u0649|\u0626\u0649|\u0626\u0649"),
  (0xfbfc, "\u06cc|\u06cc|\u06cc|\u06cc|\u0626\u062c|\u0626\u062d|\u0626\u0645"),
  (0xfc03, "\u0626\u0649|\u0626\u064a|\u0628\u062c|\u0628\u062d|\u0628\u062e"),
  (0xfc08, "\u0628\u0645|\u0628\u0649|\u0628\u064a|\u062a\u062c|\u062a\u062d"),
  (0xfc0d, "\u062a\u062e|\u062a\u0645|\u062a\u0649|\u062a\u064a|\u062b\u062c"),
  (0xfc12, "\u062b\u0645|\u062b\u0649|\u062b\u064a|\u062c\u062d|\u062c\u0645"),
  (0xfc17, "\u062d\u062c|\u062d\u0645|\u062e\u062c|\u062e\u062d|\u062e\u0645"),
  (0xfc1c, "\u0633\u062c|\u0633\u062d|\u0633\u062e|\u0633\u0645|\u0635\u062d"),
  (0xfc21, "\u0635\u0645|\u0636\u062c|\u0636\u062d|\u0636\u062e|\u0636\u0645"),
  (0xfc26, "\u0637\u062d|\u0637\u0645|\u0638\u0645|\u0639\u062c|\u0639\u0645"),
  (0xfc2b, "\u063a\u062c|\u063a\u0645|\u0641\u062c|\u0641\u062d|\u0641\u062e"),
  (0xfc30, "\u0641\u0645|\u0641\u0649|\u0641\u064a|\u0642\u062d|\u0642\u0645"),
  (0xfc35, "\u0642\u0649|\u0642\u064a|\u0643\u0627|\u0643\u062c|\u0643\u062d"),
  (0xfc3a, "\u0643\u062e|\u0643\u0644|\u0643\u0645|\u0643\u0649|\u0643\u064a"),
  (0xfc3f, "\u0644\u062c|\u0644\u062d|\u0644\u062e|\u0644\u0645|\u0644\u0649"),
  (0xfc44, "\u0644\u064a|\u0645\u062c|\u0645\u062d|\u0645\u062e|\u0645\u0645"),
  (0xfc49, "\u0645\u0649|\u0645\u064a|\u0646\u062c|\u0646\u062d|\u0646\u062e"),
  (0xfc4e, "\u0646\u0645|\u0646\u0649|\u0646\u064a|\u0647\u062c|\u0647\u0645"),
  (0xfc53, "\u0647\u0649|\u0647\u064a|\u064a\u062c|\u064a\u062d|\u064a\u062e"),
  (0xfc58, "\u064a\u0645|\u064a\u0649|\u064a\u064a|\u0630\u0670|\u0631\u0670"),
  (0xfc5d, "\u0649\u0670| \u064c\u0651| \u064d\u0651| \u064e\u0651| \u064f\u0651"),
  (0xfc62, " \u0650\u0651| \u0651\u0670|\u0626\u0631|\u0626\u0632|\u0626\u0645"),
  (0xfc67, "\u0626\u0646|\u0626\u0649|\u0626\u064a|\u0628\u0631|\u0628\u0632"),
  (0xfc6c, "\u0628\u0645|\u0628\u0646|\u0628\u0649|\u0628\u064a|\u062a\u0631"),
  (0xfc71, "\u062a\u0632|\u062a\u0645|\u062a\u0646|\u062a\u0649|\u062a\u064a"),
  (0xfc76, "\u062b\u0631|\u062b\u0632|\u062b\u0645|\u062b\u0646|\u062b\u0649"),
  (0xfc7b, "\u062b\u064a|\u0641\u0649|\u0641\u064a|\u0642\u0649|\u0642\u064a"),
  (0xfc80, "\u0643\u0627|\u0643\u0644|\u0643\u0645|\u0643\u0649|\u0643\u064a"),
  (0xfc85, "\u0644\u0645|\u0644\u0649|\u0644\u064a|\u0645\u0627|\u0645\u0645"),
  (0xfc8a, "\u0646\u0631|\u0646\u0632|\u0646\u0645|\u0646\u0646|\u0646\u0649"),
  (0xfc8f, "\u0646\u064a|\u0649\u0670|\u064a\u0631|\u064a\u0632|\u064a\u0645"),
  (0xfc94, "\u064a\u0646|\u064a\u0649|\u064a\u064a|\u0626\u062c|\u0626\u062d"),
  (0xfc99, "\u0626\u062e|\u0626\u0645|\u0626\u0647|\u0628\u062c|\u0628\u062d"),
  (0xfc9e, "\u0628\u062e|\u0628\u0645|\u0628\u0647|\u062a\u062c|\u062a\u062d"),
  (0xfca3, "\u062a\u062e|\u062a\u0645|\u062a\u0647|\u062b\u0645|\u062c\u062d"),
  (0xfca8, "\u062c\u0645|\u062d\u062c|\u062d\u0645|\u062e\u062c|\u062e\u0645"),
  (0xfcad, "\u0633\u062c|\u0633\u062d|\u0633\u062e|\u0633\u0645|\u0635\u062d"),
  (0xfcb2, "\u0635\u062e|\u0635\u0645|\u0636\u062c|\u0636\u062d|\u0636\u062e"),
  (0xfcb7, "\u0636\u0645|\u0637\u062d|\u0638\u0645|\u0639\u062c|\u0639\u0645"),
  (0xfcbc, "\u063a\u062c|\u063a\u0645|\u0641\u062c|\u0641\u062d|\u0641\u062e"),
  (0xfcc1, "\u0641\u0645|\u0642\u062d|\u0642\u0645|\u0643\u062c|\u0643\u062d"),
  (0xfcc6, "\u0643\u062e|\u0643\u0644|\u0643\u0645|\u0644\u062c|\u0644\u062d"),
  (0xfccb, "\u0644\u062e|\u0644\u0645|\u0644\u0647|\u0645\u062c|\u0645\u062d"),
  (0xfcd0, "\u0645\u062e|\u0645\u0645|\u0646\u062c|\u0646\u062d|\u0646\u062e"),
  (0xfcd5, "\u0646\u0645|\u0646\u0647|\u0647\u062c|\u0647\u0645|\u0647\u0670"),
  (0xfcda, "\u064a\u062c|\u064a\u062d|\u064a\u062e|\u064a\u0645|\u064a\u0647"),
  (0xfcdf, "\u0626\u0645|\u0626\u0647|\u0628\u0645|\u0628\u0647|\u062a\u0645"),
  (0xfce4, "\u062a\u0647|\u062b\u0645|\u062b\u0647|\u0633\u0645|\u0633\u0647"),
  (0xfce9, "\u0634\u0645|\u0634\u0647|\u0643\u0644|\u0643\u0645|\u0644\u0645"),
  (0xfcee, "\u0646\u0645|\u0646\u0647|\u064a\u0645|\u064a\u0647|\u0640\u064e\u0651"),
  (0xfcf3, "\u0640\u064f\u0651|\u0640\u0650\u0651|\u0637\u0649|\u0637\u064a"),
  (0xfcf7, "\u0639\u0649|\u0639\u064a|\u063a\u0649|\u063a\u064a|\u0633\u0649"),
  (0xfcfc, "\u0633\u064a|\u0634\u0649|\u0634\u064a|\u062d\u0649|\u062d\u064a"),
  (0xfd01, "\u062c\u0649|\u062c\u064a|\u062e\u0649|\u062e\u064a|\u0635\u0649"),
  (0xfd06, "\u0635\u064a|\u0636\u0649|\u0636\u064a|\u0634\u062c|\u0634\u062d"),
  (0xfd0b, "\u0634\u062e|\u0634\u0645|\u0634\u0631|\u0633\u0631|\u0635\u0631"),
  (0xfd10, "\u0636\u0631|\u0637\u0649|\u0637\u064a|\u0639\u0649|\u0639\u064a"),
  (0xfd15, "\u063a\u0649|\u063a\u064a|\u0633\u0649|\u0633\u064a|\u0634\u0649"),
  (0xfd1a, "\u0634\u064a|\u062d\u0649|\u062d\u064a|\u062c\u0649|\u062c\u064a"),
  (0xfd1f, "\u062e\u0649|\u062e\u064a|\u0635\u0649|\u0635\u064a|\u0636\u0649"),
  (0xfd24, "\u0636\u064a|\u0634\u062c|\u0634\u062d|\u0634\u062e|\u0634\u0645"),
  (0xfd29, "\u0634\u0631|\u0633\u0631|\u0635\u0631|\u0636\u0631|\u0634\u062c"),
  (0xfd2e, "\u0634\u062d|\u0634\u062e|\u0634\u0645|\u0633\u0647|\u0634\u0647"),
  (0xfd33, "\u0637\u0645|\u0633\u062c|\u0633\u062d|\u0633\u062e|\u0634\u062c"),
  (0xfd38, "\u0634\u062d|\u0634\u062e|\u0637\u0645|\u0638\u0645|\u0627\u064b"),
  (0xfd3d, "\u0627\u064b"), (0xfd50, "\u062a\u062c\u0645|\u062a\u062d\u062c|\u062a\u062d\u062c"),
  (0xfd53, "\u062a\u062d\u0645|\u062a\u062e\u0645|\u062a\u0645\u062c"),
  (0xfd56, "\u062a\u0645\u062d|\u062a\u0645\u062e|\u062c\u0645\u062d"),
  (0xfd59, "\u062c\u0645\u062d|\u062d\u0645\u064a|\u062d\u0645\u0649"),
  (0xfd5c, "\u0633\u062d\u062c|\u0633\u062c\u062d|\u0633\u062c\u0649"),
  (0xfd5f, "\u0633\u0645\u062d|\u0633\u0645\u062d|\u0633\u0645\u062c"),
  (0xfd62, "\u0633\u0645\u0645|\u0633\u0645\u0645|\u0635\u062d\u062d"),
  (0xfd65, "\u0635\u062d\u062d|\u0635\u0645\u0645|\u0634\u062d\u0645"),
  (0xfd68, "\u0634\u062d\u0645|\u0634\u062c\u064a|\u0634\u0645\u062e"),
  (0xfd6b, "\u0634\u0645\u062e|\u0634\u0645\u0645|\u0634\u0645\u0645"),
  (0xfd6e, "\u0636\u062d\u0649|\u0636\u062e\u0645|\u0636\u062e\u0645"),
  (0xfd71, "\u0637\u0645\u062d|\u0637\u0645\u062d|\u0637\u0645\u0645"),
  (0xfd74, "\u0637\u0645\u064a|\u0639\u062c\u0645|\u0639\u0645\u0645"),
  (0xfd77, "\u0639\u0645\u0645|\u0639\u0645\u0649|\u063a\u0645\u0645"),
  (0xfd7a, "\u063a\u0645\u064a|\u063a\u0645\u0649|\u0641\u062e\u0645"),
  (0xfd7d, "\u0641\u062e\u0645|\u0642\u0645\u062d|\u0642\u0645\u0645"),
  (0xfd80, "\u0644\u062d\u0645|\u0644\u062d\u064a|\u0644\u062d\u0649"),
  (0xfd83, "\u0644\u062c\u062c|\u0644\u062c\u062c|\u0644\u062e\u0645"),
  (0xfd86, "\u0644\u062e\u0645|\u0644\u0645\u062d|\u0644\u0645\u062d"),
  (0xfd89, "\u0645\u062d\u062c|\u0645\u062d\u0645|\u0645\u062d\u064a"),
  (0xfd8c, "\u0645\u062c\u062d|\u0645\u062c\u0645|\u0645\u062e\u062c"),
  (0xfd8f, "\u0645\u062e\u0645"),
  (0xfd92, "\u0645\u062c\u062e|\u0647\u0645\u062c|\u0647\u0645\u0645"),
  (0xfd95, "\u0646\u062d\u0645|\u0646\u062d\u0649|\u0646\u062c\u0645"),
  (0xfd98, "\u0646\u062c\u0645|\u0646\u062c\u0649|\u0646\u0645\u064a"),
  (0xfd9b, "\u0646\u0645\u0649|\u064a\u0645\u0645|\u064a\u0645\u0645"),
  (0xfd9e, "\u0628\u062e\u064a|\u062a\u062c\u064a|\u062a\u062c\u0649"),
  (0xfda1, "\u062a\u062e\u064a|\u062a\u062e\u0649|\u062a\u0645\u064a"),
  (0xfda4, "\u062a\u0645\u0649|\u062c\u0645\u064a|\u062c\u062d\u0649"),
  (0xfda7, "\u062c\u0645\u0649|\u0633\u062e\u0649|\u0635\u062d\u064a"),
  (0xfdaa, "\u0634\u062d\u064a|\u0636\u062d\u064a|\u0644\u062c\u064a"),
  (0xfdad, "\u0644\u0645\u064a|\u064a\u062d\u064a|\u064a\u062c\u064a"),
  (0xfdb0, "\u064a\u0645\u064a|\u0645\u0645\u064a|\u0642\u0645\u064a"),
  (0xfdb3, "\u0646\u062d\u064a|\u0642\u0645\u062d|\u0644\u062d\u0645"),
  (0xfdb6, "\u0639\u0645\u064a|\u0643\u0645\u064a|\u0646\u062c\u062d"),
  (0xfdb9, "\u0645\u062e\u064a|\u0644\u062c\u0645|\u0643\u0645\u0645"),
  (0xfdbc, "\u0644\u062c\u0645|\u0646\u062c\u062d|\u062c\u062d\u064a"),
  (0xfdbf, "\u062d\u062c\u064a|\u0645\u062c\u064a|\u0641\u0645\u064a"),
  (0xfdc2, "\u0628\u062d\u064a|\u0643\u0645\u0645|\u0639\u062c\u0645"),
  (0xfdc5, "\u0635\u0645\u0645|\u0633\u062e\u064a|\u0646\u062c\u064a"),
  (0xfdf0, "\u0635\u0644\u06d2|\u0642\u0644\u06d2|\u0627\u0644\u0644\u0647"),
  (0xfdf3, "\u0627\u0643\u0628\u0631|\u0645\u062d\u0645\u062f"),
  (0xfdf5, "\u0635\u0644\u0639\u0645|\u0631\u0633\u0648\u0644"),
  (0xfdf7, "\u0639\u0644\u064a\u0647|\u0648\u0633\u0644\u0645|\u0635\u0644\u0649"),
  (0xfdfa, "\u0635\u0644\u0649 \u0627\u0644\u0644\u0647 \u0639\u0644\u064a\u0647 \u0648\u0633\u0644\u0645"),
  (0xfdfb, "\u062c\u0644 \u062c\u0644\u0627\u0644\u0647|\u0631\u06cc\u0627\u0644"),
  (0xfe10, ",|、"), (0xfe13, ":|;|!|?|〖|〗"), (0xfe31, "—|–|_|_|(|)|\x7b|\x7d|〔|〕|【|】|《|》|〈|〉"),
  (0xfe47, "[|]| \u0305| \u0305| \u0305| \u0305|_|_|_|,|、"),
  (0xfe54, ";|:|?|!|—|(|)|\x7b|\x7d|〔|〕|#|&|*|+|-|<|>|="), (0xfe68, "\\|$|%|@"),
  (0xfe70, " \u064b|\u0640\u064b| \u064c"), (0xfe74, " \u064d"),
  (0xfe76, " \u064e|\u0640\u064e| \u064f|\u0640\u064f| \u0650|\u0640\u0650| \u0651"),
  (0xfe7d, "\u0640\u0651| \u0652|\u0640\u0652|\u0621|\u0622|\u0622|\u0623|\u0623"),
  (0xfe85, "\u0624|\u0624|\u0625|\u0625|\u0626|\u0626|\u0626|\u0626|\u0627|\u0627"),
  (0xfe8f, "\u0628|\u0628|\u0628|\u0628|\u0629|\u0629|\u062a|\u062a|\u062a|\u062a"),
  (0xfe99, "\u062b|\u062b|\u062b|\u062b|\u062c|\u062c|\u062c|\u062c|\u062d|\u062d"),
  (0xfea3, "\u062d|\u062d|\u062e|\u062e|\u062e|\u062e|\u062f|\u062f|\u0630|\u0630"),
  (0xfead, "\u0631|\u0631|\u0632|\u0632|\u0633|\u0633|\u0633|\u0633|\u0634|\u0634"),
  (0xfeb7, "\u0634|\u0634|\u0635|\u0635|\u0635|\u0635|\u0636|\u0636|\u0636|\u0636"),
  (0xfec1, "\u0637|\u0637|\u0637|\u0637|\u0638|\u0638|\u0638|\u0638|\u0639|\u0639"),
  (0xfecb, "\u0639|\u0639|\u063a|\u063a|\u063a|\u063a|\u0641|\u0641|\u0641|\u0641"),
  (0xfed5, "\u0642|\u0642|\u0642|\u0642|\u0643|\u0643|\u0643|\u0643|\u0644|\u0644"),
  (0xfedf, "\u0644|\u0644|\u0645|\u0645|\u0645|\u0645|\u0646|\u0646|\u0646|\u0646"),
  (0xfee9, "\u0647|\u0647|\u0647|\u0647|\u0648|\u0648|\u0649|\u0649|\u064a|\u064a"),
  (0xfef3, "\u064a|\u064a|\u0644\u0622|\u0644\u0622|\u0644\u0623|\u0644\u0623"),
  (0xfef9, "\u0644\u0625|\u0644\u0625|\u0644\u0627|\u0644\u0627"),
  (0xff5f, "⦅|⦆|.|「|」|、|・|ヲ|ァ|ィ|ゥ|ェ|ォ|ャ|ュ|ョ|ッ|ー|ア|イ|ウ|エ|オ|カ|キ|ク|ケ|コ|サ|シ|ス|セ|ソ|タ|チ"),
  (0xff82, "ツ|テ|ト"), (0xff8b, "ヒ|フ|ヘ|ホ"), (0xff94, "ヤ|ユ"), (0xff9c, "ワ|ン|\u3099|\u309a"),
  (0xffa1, "ᄀ|ᄁ|ᆪ|ᄂ|ᆬ|ᆭ|ᄃ|ᄄ|ᄅ"), (0xffb0, "ᄚ|ᄆ|ᄇ|ᄈ|ᄡ"), (0xffda, "ᅳ|ᅴ|ᅵ"),
  (0xffe0, "¢|£|¬| \u0304|¦|¥|₩"), (0xffe8, "│"), (0xffed, "■|○"), (0x10594, "𐖻|𐖼"),
  (0x10781, "ː|ˑ|æ|ʙ|ɓ"),
  (0x10787, "ʣ|ꭦ|ʥ|ʤ|ɖ|ɗ|ᶑ|ɘ|ɞ|ʩ|ɤ|ɢ|ɠ|ʛ|ħ|ʜ|ɧ|ʄ|ʪ|ʫ|ɬ|𝼄|ꞎ|ɮ|𝼅|ʎ|𝼆|ø|ɶ|ɷ|q|ɺ|𝼈|ɽ|ɾ"),
  (0x107aa, "ʀ|ʨ|ʦ|ꭧ|ʧ|ʈ|ⱱ"), (0x107b2, "ʏ|ʡ|ʢ|ʘ|ǀ|ǁ|ǂ|𝼊|𝼞"),
  (0x1d15e, "𝅗𝅥|𝅘𝅥|𝅘𝅥𝅮|𝅘𝅥𝅯|𝅘𝅥𝅰|𝅘𝅥𝅱|𝅘𝅥𝅲"), (0x1d1bb, "𝆹𝅥|𝆺𝅥|𝆹𝅥𝅮|𝆺𝅥𝅮|𝆹𝅥𝅯|𝆺𝅥𝅯"), (0x1d49c, "a"),
  (0x1d49e, "c|d"), (0x1d4a2, "g"), (0x1d4a5, "j|k"), (0x1d4bb, "f"), (0x1d504, "a|b"),
  (0x1d538, "a|b"), (0x1d546, "o"), (0x1d6a4, "ı|ȷ"), (0x1d6b9, "θ"), (0x1d6c1, "∇"),
  (0x1d6d3, "σ"), (0x1d6db, "∂|ε|θ|κ|φ|ρ|π"), (0x1d6f3, "θ"), (0x1d6fb, "∇"), (0x1d70d, "σ"),
  (0x1d715, "∂|ε|θ|κ|φ|ρ|π"), (0x1d72d, "θ"), (0x1d735, "∇"), (0x1d747, "σ"),
  (0x1d74f, "∂|ε|θ|κ|φ|ρ|π"), (0x1d767, "θ"), (0x1d76f, "∇"), (0x1d781, "σ"),
  (0x1d789, "∂|ε|θ|κ|φ|ρ|π"), (0x1d7a1, "θ"), (0x1d7a9, "∇"), (0x1d7bb, "σ"),
  (0x1d7c3, "∂|ε|θ|κ|φ|ρ|π|ϝ|ϝ"), (0x1e039, "к|л|м"), (0x1e047, "ы|э|ю|ꚉ|ә|і|ј|ө|ү|ӏ"),
  (0x1e05a, "к|л|о|п|с"), (0x1e065, "ъ|ы|ґ|і|ѕ|џ|ҫ|ꙑ|ұ"),
  (0x1ee00, "\u0627|\u0628|\u062c|\u062f"), (0x1ee05, "\u0648|\u0632|\u062d|\u0637|\u064a"),
  (0x1ee0e, "\u0633|\u0639|\u0641|\u0635|\u0642|\u0631|\u0634|\u062a|\u062b|\u062e"),
  (0x1ee18, "\u0630|\u0636|\u0638|\u063a|\u066e|\u06ba|\u06a1|\u066f"),
  (0x1ee21, "\u0628|\u062c"), (0x1ee24, "\u0647"), (0x1ee27, "\u062d"), (0x1ee29, "\u064a"),
  (0x1ee2e, "\u0633|\u0639|\u0641|\u0635|\u0642"), (0x1ee34, "\u0634|\u062a|\u062b|\u062e"),
  (0x1ee39, "\u0636"), (0x1ee3b, "\u063a"), (0x1ee42, "\u062c"), (0x1ee47, "\u062d"),
  (0x1ee49, "\u064a"), (0x1ee4b, "\u0644"), (0x1ee4d, "\u0646|\u0633|\u0639"),
  (0x1ee51, "\u0635|\u0642"), (0x1ee54, "\u0634"), (0x1ee57, "\u062e"), (0x1ee59, "\u0636"),
  (0x1ee5b, "\u063a"), (0x1ee5d, "\u06ba"), (0x1ee5f, "\u066f"), (0x1ee61, "\u0628|\u062c"),
  (0x1ee64, "\u0647"), (0x1ee67, "\u062d|\u0637|\u064a|\u0643"),
  (0x1ee6c, "\u0645|\u0646|\u0633|\u0639|\u0641|\u0635|\u0642"),
  (0x1ee74, "\u0634|\u062a|\u062b|\u062e"), (0x1ee79, "\u0636|\u0638|\u063a|\u066e"),
  (0x1ee7e, "\u06a1"),
  (0x1ee80, "\u0627|\u0628|\u062c|\u062f|\u0647|\u0648|\u0632|\u062d|\u0637|\u064a"),
  (0x1ee8b, "\u0644|\u0645|\u0646|\u0633|\u0639|\u0641|\u0635|\u0642|\u0631|\u0634"),
  (0x1ee95, "\u062a|\u062b|\u062e|\u0630|\u0636|\u0638|\u063a"),
  (0x1eea1, "\u0628|\u062c|\u062f"), (0x1eea5, "\u0648|\u0632|\u062d|\u0637|\u064a"),
  (0x1eeab, "\u0644|\u0645|\u0646|\u0633|\u0639|\u0641|\u0635|\u0642|\u0631|\u0634"),
  (0x1eeb5, "\u062a|\u062b|\u062e|\u0630|\u0636|\u0638|\u063a"),
  (0x1f101, "0,|1,|2,|3,|4,|5,|6,|7,|8,|9,"),
  (0x1f110, "(a)|(b)|(c)|(d)|(e)|(f)|(g)|(h)|(i)|(j)|(k)|(l)|(m)|(n)|(o)|(p)|(q)"),
  (0x1f121, "(r)|(s)|(t)|(u)|(v)|(w)|(x)|(y)|(z)|〔s〕|c|r|cd|wz"), (0x1f14a, "hv|mv|sd|ss|ppv|wc"),
  (0x1f16a, "mc|md|mr"), (0x1f190, "dj"), (0x1f200, "ほか|ココ|サ"),
  (0x1f210, "手|字|双|デ|二|多|解|天|交|映|無|料|前|後|再|新|初|終|生|販|声|吹|演|投|捕|一|三|遊|左|中|右|指|走|打|禁"),
  (0x1f233, "空|合|満|有|月|申|割|営|配"), (0x1f240, "〔本〕|〔三〕|〔二〕|〔安〕|〔点〕|〔打〕|〔盗〕|〔勝〕|〔敗〕"),
  (0x1f250, "得|可"),
  (0x2f800, "丽|丸|乁|𠄢|你|侮|侻|倂|偺|備|僧|像|㒞|𠘺|免|兔|兤|具|𠔜|㒹|內|再|𠕋|冗|冤|仌|冬|况|𩇟|凵|刃|㓟|刻|剆|割"),
  (0x2f823, "剷|㔕|勇|勉|勤|勺|包|匆|北|卉|卑|博|即|卽|卿|卿|卿|𠨬|灰|及|叟|𠭣|叫|叱|吆|咞|吸|呈|周|咢|哶|唐|啓|啣|善"),
  (0x2f846, "善|喙|喫|喳|嗂|圖|嘆|圗|噑|噴|切|壮|城|埴|堍|型|堲|報|墬|𡓤|売|壷|夆|多|夢|奢|𡚨|𡛪|姬|娛|娧|姘|婦|㛮|㛼"),
  (0x2f869, "嬈|嬾|嬾|𡧈|寃|寘|寧|寳|𡬘|寿|将|当|尢|㞁|屠|屮|峀|岍|𡷤|嵃|𡷦|嵮|嵫|嵼|巡|巢|㠯|巽|帨|帽|幩|㡢|𢆃|㡼|庰"),
  (0x2f88c, "庳|庶|廊|𪎒|廾|𢌱|𢌱|舁|弢|弢|㣇|𣊸|𦇚|形|彫|㣣|徚|忍|志|忹|悁|㤺|㤜|悔|𢛔|惇|慈|慌|慎|慌|慺|憎|憲|憤|憯"),
  (0x2f8af, "懞|懲|懶|成|戛|扝|抱|拔|捐|𢬌|挽|拼|捨|掃|揤|𢯱|搢|揅|掩|㨮|摩|摾|撝|摷|㩬|敏|敬|𣀊|旣|書|晉|㬙|暑|㬈|㫤"),
  (0x2f8d2, "冒|冕|最|暜|肭|䏙|朗|望|朡|杞|杓|𣏃|㭉|柺|枅|桒|梅|𣑭|梎|栟|椔|㮝|楂|榣|槪|檨|𣚣|櫛|㰘|次|𣢧|歔|㱎|歲|殟"),
  (0x2f8f5, "殺|殻|𣪍|𡴋|𣫺|汎|𣲼|沿|泍|汧|洖|派|海|流|浩|浸|涅|𣴞|洴|港|湮|㴳|滋|滇|𣻑|淹|潮|𣽞|𣾎|濆|瀹|瀞|瀛|㶖|灊"),
  (0x2f918, "災|灷|炭|𠔥|煅|𤉣|熜|𤎫|爨|爵|牐|𤘈|犀|犕|𤜵|𤠔|獺|王|㺬|玥|㺸|㺸|瑇|瑜|瑱|璅|瓊|㼛|甤|𤰶|甾|𤲒|異|𢆟|瘐"),
  (0x2f93b, "𤾡|𤾸|𥁄|㿼|䀈|直|𥃳|𥃲|𥄙|𥄳|眞|真|真|睊|䀹|瞋|䁆|䂖|𥐝|硎|碌|磌|䃣|𥘦|祖|𥚚|𥛅|福|秫|䄯|穀|穊|穏|𥥼|𥪧"),
  (0x2f95e, "𥪧|竮|䈂|𥮫|篆|築|䈧|𥲀|糒|䊠|糨|糣|紀|𥾆|絣|䌁|緇|縂|繅|䌴|𦈨|𦉇|䍙|𦋙|罺|𦌾|羕|翺|者|𦓚|𦔣|聠|𦖨|聰|𣍟"),
  (0x2f981, "䏕|育|脃|䐋|脾|媵|𦞧|𦞵|𣎓|𣎜|舁|舄|辞|䑫|芑|芋|芝|劳|花|芳|芽|苦|𦬼|若|茝|荣|莭|茣|莽|菧|著|荓|菊|菌|菜"),
  (0x2f9a4, "𦰶|𦵫|𦳕|䔫|蓱|蓳|蔖|𧏊|蕤|𦼬|䕝|䕡|𦾱|𧃒|䕫|虐|虜|虧|虩|蚩|蚈|蜎|蛢|蝹|蜨|蝫|螆|䗗|蟡|蠁|䗹|衠|衣|𧙧|裗"),
  (0x2f9c7, "裞|䘵|裺|㒻|𧢮|𧥦|䚾|䛇|誠|諭|變|豕|𧲨|貫|賁|贛|起|𧼯|𠠄|跋|趼|跰|𠣞|軔|輸|𨗒|𨗭|邔|郱|鄑|𨜮|鄛|鈸|鋗|鋘"),
  (0x2f9ea, "鉼|鏹|鐕|𨯺|開|䦕|閷|𨵷|䧦|雃|嶲|霣|𩅅|𩈚|䩮|䩶|韠|𩐊|䪲|𩒖|頋|頋|頩|𩖶|飢|䬳|餩|馧|駂|駾|䯎|𩬰|鬒|鱀|鳽"),
  (0x2fa0d, "䳎|䳭|鵧|𪃎|䳸|𪄅|𪈎|𪊑|麻|䵖|黹|黾|鼅|鼏|鼖|鼻|𪘀")]

/-- What is left out. -/
def ignored : Text.CodePoints where
  ranges := [
    (0xad, 0xad), (0x34f, 0x34f), (0x115f, 0x1160), (0x17b4, 0x17b5), (0x180b, 0x180f),
    (0x200b, 0x200b), (0x2060, 0x2064), (0x206a, 0x206f), (0x3164, 0x3164), (0xfe00, 0xfe0f),
    (0xfeff, 0xfeff), (0xffa0, 0xffa0), (0x1bca0, 0x1bca3), (0x1d173, 0x1d17a),
    (0xe0100, 0xe01ef)]

/-- What is refused although it prints. -/
def refused : Text.CodePoints where
  ranges := [
    (0x2024, 0x2026), (0x2488, 0x249b), (0x2ff0, 0x2fff), (0x31ef, 0x31ef), (0x33c2, 0x33c2),
    (0x33c7, 0x33c7), (0x33d8, 0x33d8), (0xfe12, 0xfe12), (0xfe19, 0xfe19), (0xfe30, 0xfe30),
    (0xfe52, 0xfe52), (0xfffc, 0xfffd), (0x1f100, 0x1f100)]

/-- The replacement of a character that is replaced. -/
def replacement? (c : Char) : Option (List Char) :=
  let n := c.toNat
  match shifted.find? fun r => r.1 ≤ n && n ≤ r.2.1 with
  | some (first, _, target) => some [Char.ofNat (target + (n - first))]
  | none =>
    if alternating.any fun r => r.1 ≤ n && n ≤ r.2 && (n - r.1) % 2 == 0 then
      some [Char.ofNat (n + 1)]
    else replaced.findSome? fun (first, texts) =>
      if first ≤ n then (texts.toList.splitOn '|')[n - first]? else none

/-- What a character becomes, unless it is refused. -/
def mapped? (c : Char) : Option (List Char) :=
  match replacement? c with
  | some cs => some cs
  | none =>
    if c.toNat < 0x80 then some [c]
    else if ignored.contains c then some []
    else if refused.contains c || !Text.isPrinted c && c ≠ '\u200c' && c ≠ '\u200d' then none
    else some [c]

end Switchboard.DomainMapping
