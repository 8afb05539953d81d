import LintDesk.Unicode.CharSet

/-! # Scripts

The characters of each script, as packed tables, by the long and the short name of the script in
lower case, without blanks, hyphens and underscores.
-/

namespace LintDesk.Unicode.Script

def adlam : CharSet := .unpack
  ["2olc 23 4 9 4 1"]

def ahom : CharSet := .unpack
  ["1j40 q 2 e 4 m"]

def anatolianHieroglyphs : CharSet := .unpack
  ["1s00 g6"]

def arabic : CharSet := .unpack
  ["16o 4 1 5 1 d 1 2 1 v 1 9 b p 1 2z 1 x 28 1b 6o u 1 1 6 21 1 s 1bv4 36 g a2 2 27 2 1h 7 0 w",
   "f 34 4 1 3q 31f u 3i 2 181s 3 1 q 1 1 1 0 2 0 1 9 1 3 1 0 1 0 6 0 4 0 1 0 1 0 1 2 1 1 1 0 2",
   "0 1 0 1 0 1 0 1 0 1 1 1 0 2 3 1 6 1 3 1 3 1 0 1 9 1 g 5 2 1 4 1 g 1g 1"]

def armenian : CharSet := .unpack
  ["10x 11 2 1d 2 2 1chv 4"]

def avestan : CharSet := .unpack
  ["1gqo 1h 3 6"]

def balinese : CharSet := .unpack
  ["5c0 24 3 1a"]

def bamum : CharSet := .unpack
  ["www 2f 124o fs"]

def bassaVah : CharSet := .unpack
  ["1zo0 t 2 5"]

def batak : CharSet := .unpack
  ["5hc 1f 8 3"]

def bengali : CharSet := .unpack
  ["1vk 3 1 7 2 1 2 l 1 6 1 0 3 3 2 8 2 1 2 3 8 0 4 1 1 4 2 o"]

def bhaiksuki : CharSet := .unpack
  ["1k3k 8 1 18 1 d a s"]

def bopomofo : CharSet := .unpack
  ["kq 1 93t 16 34 v"]

def brahmi : CharSet := .unpack
  ["1hq8 25 4 z 9 0"]

def braille : CharSet := .unpack
  ["7wg 73"]

def buginese : CharSet := .unpack
  ["54w r 2 1"]

def buhid : CharSet := .unpack
  ["4lc j"]

def canadianAboriginal : CharSet := .unpack
  ["3y8 hr fk 1x 1ewq f"]

def carian : CharSet := .unpack
  ["1f34 1c"]

def caucasianAlbanian : CharSet := .unpack
  ["1flc 1f b 0"]

def chakma : CharSet := .unpack
  ["1hxc 1g 1 h"]

def cham : CharSet := .unpack
  ["xkw 1i 9 d 2 9 2 3"]

def cherokee : CharSet := .unpack
  ["3vk 2d 2 5 twy 27"]

def chorasmian : CharSet := .unpack
  ["1ho0 r"]

def common : CharSet := .unpack
  ["0 1s q 5 q 1a 1 e 1 4 n 0 v 0 ch 12 5 4 2 j 38 0 9 0 6 0 1 0 hp 0 6 0 e 0 3 0 w 0 4c 0 ec 0",
   "3l 1 yh 0 b9 3 82 0 167 2 1z 1 5n 1 1 0 y5 0 d 0 7 3 1 5 1 2 2 0 lh b 2 2e 1 a 3 a 1 e h w",
   "1r 11 1 2 2 5 1 q 1 g 15 2 4 ie p a l pr 74 hf 2 v 1 2w e8 2l b6 b 4 4 1 0 1 o f 7 4 3 2j 1",
   "3 0 2i 1 43 f w z 1o 1r v 28 1b 0 2g 4n 534 1r hkw x 2u 2 4l 9 6s 0 4g 0 az 0 e 1 g5u 1 5s",
   "9 m y 1 i 1 3 43 0 1 v q 5 q a a 0 19 1 1s 6 1 6 a 4 76 2 4 18 3 8 28 c 1f 18 6c q 10o4 3",
   "3os 37 1o 6t a 12 2 1p 3 g 8 1 7 t 4 1o 5x j c j c 2e 9 o 3r 2c 1 1y 1 1 2 0 2 1 2 3 1 b 1",
   "0 1 6 1 1s 1 3 2 7 1 6 1 r 1 3 1 4 1 0 3 6 1 9f 2 83 2 1d 41d 1v 24 1o jm 17 4 2r c e 2 e 1",
   "e 1 10 a 4t 1k p 1 1 d 17 4 8 7 1 e 5 4a rb 4 g 3 c 3 3a 4 2m 6 b 4 0 f b 4 1j 8 9 6 13 8 t",
   "2 1 26 9f c d 2 c 3 8 7 19 1 6 8 d 4 8 7 8 7 42 1 1i 11 9 gvlz 0 u 2n"]

def coptic : CharSet := .unpack
  ["rm d 80g 37 5 6"]

def cuneiform : CharSet := .unpack
  ["1kw0 pl 2u 32 1 4 b 5f"]

def cypriot : CharSet := .unpack
  ["1g5c 5 2 0 1 17 1 1 3 0 2 0"]

def cyproMinoan : CharSet := .unpack
  ["1nyo 2q"]

def cyrillic : CharSet := .unpack
  ["sg 3o 2 4o 4ls 8 4i 0 24 0 38n v nr4 2n ham 1 18n4 1p x 0"]

def deseret : CharSet := .unpack
  ["1fcw 27"]

def devanagari : CharSet := .unpack
  ["1s0 28 4 e 2 p vhc v mio 9"]

def divesAkuru : CharSet := .unpack
  ["1ji8 6 2 0 2 7 1 1 1 t 1 1 2 b 9 9"]

def dogra : CharSet := .unpack
  ["1jb4 1n"]

def duployan : CharSet := .unpack
  ["2fpc 2y 5 c 3 8 7 9 2 3"]

def egyptianHieroglyphs : CharSet := .unpack
  ["1o1s ut a 32y"]

def elbasan : CharSet := .unpack
  ["1fk0 13"]

def elymaic : CharSet := .unpack
  ["1hpc m"]

def ethiopic : CharSet := .unpack
  ["3k0 20 1 3 2 6 1 0 1 3 2 14 1 3 2 w 1 3 2 6 1 0 1 3 2 e 1 1k 1 3 2 1u 2 v 3 p 546 m 9 6 1 6",
   "1 6 1 6 1 6 1 6 1 6 1 6 opu 5 2 5 2 5 9 6 1 6 1qk1 6 1 3 1 1 1 e"]

def georgian : CharSet := .unpack
  ["3a8 11 1 0 5 0 2 16 1 3 2a8 16 2 2 37k 11 1 0 5 0"]

def glagolitic : CharSet := .unpack
  ["8ow 2n 2e1s 6 1 g 2 6 1 1 1 4"]

def gothic : CharSet := .unpack
  ["1f74 q"]

def grantha : CharSet := .unpack
  ["1ibk 3 1 7 2 1 2 l 1 6 1 1 1 4 2 8 2 1 2 2 2 0 6 0 5 6 2 6 3 4"]

def greek : CharSet := .unpack
  ["og 3 1 2 2 3 1 0 4 0 1 0 1 2 1 0 1 j 1 1q e f 4yu 4 1e 4 4 4 2c 0 8w l 2 5 2 11 2 5 2 7 1 0",
   "1 0 1 0 1 u 2 1g 1 e 1 d 2 5 1 i 2 2 1 8 87 0 rb2 0 gyi 26 h 0 155r 1x"]

def gujarati : CharSet := .unpack
  ["22p 2 1 8 1 2 1 l 1 6 1 1 1 4 2 9 1 2 1 2 2 0 f 3 2 b 7 6"]

def gunjalaGondi : CharSet := .unpack
  ["1kdc 5 1 1 1 10 1 1 1 5 7 9"]

def gurmukhi : CharSet := .unpack
  ["1z5 2 1 5 4 1 2 l 1 6 1 1 1 1 1 1 2 0 1 4 4 1 2 2 3 0 7 3 1 0 7 g"]

def han : CharSet := .unpack
  ["96o p 1 2g c 5x 1b 0 1 0 p 8 e 3 qs 533 1s g73 hkw a5 2 2x n48 1 c 1 sge wyn w 37d 6 65 2",
   "4g1 e 5rk f h9 1wi f1 15u 3t6 5 38f"]

def hangul : CharSet := .unpack
  ["3cw 73 5ym 1 75 2l 35 u 1t u nhd s hv 8mb c m 4 1c 7tw u 3 5 2 5 2 5 2 2"]

def hanifiRohingya : CharSet := .unpack
  ["1h4w 13 8 9"]

def hanunoo : CharSet := .unpack
  ["4kg k"]

def hatran : CharSet := .unpack
  ["1gbk i 1 1 5 4"]

def hebrew : CharSet := .unpack
  ["13l 1i 8 q 4 5 1cfc p 1 4 1 0 1 1 1 1 1 9"]

def hiragana : CharSet := .unpack
  ["9j5 2d 6 2 23q9 7y i 0 t 2 crx 0"]

def imperialAramaic : CharSet := .unpack
  ["1g74 l 1 8"]

def inherited : CharSet := .unpack
  ["lc 33 7p 1 ck a q 0 kg 3 3ff u e9 2 1 c 1 6 4 0 6 0 3 1 5i 1r ek 1 5e w 309 3 2z 1 14kl f g",
   "d r3 0 6a 0 38a 0 1138 19 2 m f4 2 h 7 2 6 u 3 h45u 6n"]

def inscriptionalPahlavi : CharSet := .unpack
  ["1gtc i 5 7"]

def inscriptionalParthian : CharSet := .unpack
  ["1gsg l 2 7"]

def javanese : CharSet := .unpack
  ["xhc 25 2 9 4 1"]

def kaithi : CharSet := .unpack
  ["1hts 1u a 0"]

def kannada : CharSet := .unpack
  ["2gw c 1 2 1 m 1 9 1 4 2 8 1 2 1 3 7 1 6 1 1 3 2 9 1 2"]

def katakana : CharSet := .unpack
  ["9lt 2h 2 2 6o f 5s 1a 1 2f 14b2 9 1 18 ytu 3 1 6 1 1 1 0 7z 2 1e 0 e 3"]

def kawi : CharSet := .unpack
  ["1kow g 1 14 3 r"]

def kayahLi : CharSet := .unpack
  ["xds 19 1 0"]

def kharoshthi : CharSet := .unpack
  ["1gjk 3 1 1 5 7 1 2 1 s 2 2 4 9 7 8"]

def khitanSmallScript : CharSet := .unpack
  ["20o4 0 5cr d1"]

def khmer : CharSet := .unpack
  ["4n4 2l 2 9 6 9 di v"]

def khojki : CharSet := .unpack
  ["1i4g h 1 1a"]

def khudawadi : CharSet := .unpack
  ["1i9c 1m 5 9"]

def lao : CharSet := .unpack
  ["2v5 1 1 0 1 4 1 n 1 0 1 m 2 4 1 0 1 6 1 9 2 3"]

def latin : CharSet := .unpack
  ["1t p 6 p 1b 0 f 0 5 m 1 u 1 cg 13 4 55n 11 6 1c 5 3 5 c 1 1x 1t 73 a9 0 d 0 g c 3x 1 6 0 r",
   "0 h 14 253 v o82 2t 3 1r 5 1 1 0 1 4 o d mo 16 1 8 1 3 fpy 6 t6 p 6 p 1lx 5 1 15 1 8 16it u",
   "6 5"]

def lepcha : CharSet := .unpack
  ["5j4 1j 3 e 3 2"]

def limbu : CharSet := .unpack
  ["4xs u 1 b 4 b 4 0 3 b"]

def linearA : CharSet := .unpack
  ["1fr4 8m 9 l a 7"]

def linearB : CharSet := .unpack
  ["1ekg b 1 p 1 i 1 1 1 e 2 d y 3e"]

def lisu : CharSet := .unpack
  ["wk0 1b o8g 0"]

def lycian : CharSet := .unpack
  ["1f28 s"]

def lydian : CharSet := .unpack
  ["1gdc p 5 0"]

def mahajani : CharSet := .unpack
  ["1hzk 12"]

def makasar : CharSet := .unpack
  ["1ko0 o"]

def malayalam : CharSet := .unpack
  ["2kg c 1 2 1 1e 1 2 1 5 4 f 2 p"]

def mandaic : CharSet := .unpack
  ["1mo r 2 0"]

def manichaean : CharSet := .unpack
  ["1gow 12 4 b"]

def marchen : CharSet := .unpack
  ["1k6o v 2 l 1 d"]

def masaramGondi : CharSet := .unpack
  ["1kao 6 1 1 1 17 3 0 1 1 1 8 8 9"]

def medefaidrin : CharSet := .unpack
  ["20cg 2i"]

def meeteiMayek : CharSet := .unpack
  ["xr4 m 5l 19 2 9"]

def mendeKikakui : CharSet := .unpack
  ["2oe8 5g 2 f"]

def meroiticCursive : CharSet := .unpack
  ["1ggw n 4 j 2 19"]

def meroiticHieroglyphs : CharSet := .unpack
  ["1gg0 v"]

def miao : CharSet := .unpack
  ["20hs 22 4 1k 7 g"]

def modi : CharSet := .unpack
  ["1iww 1w b 9"]

def mongolian : CharSet := .unpack
  ["4qo 1 2 0 1 j 6 2g 7 16 1e45 c"]

def mro : CharSet := .unpack
  ["1zk0 u 1 9 4 1"]

def multani : CharSet := .unpack
  ["1i80 6 1 0 1 3 1 e 1 a"]

def myanmar : CharSet := .unpack
  ["35s 4f u9s u 2p v"]

def nabataean : CharSet := .unpack
  ["1g8w u 8 8"]

def nagMundari : CharSet := .unpack
  ["2nrk 15"]

def nandinagari : CharSet := .unpack
  ["1jmo 7 2 19 2 a"]

def newTaiLue : CharSet := .unpack
  ["51c 17 4 p 6 a 3 1"]

def newa : CharSet := .unpack
  ["1iio 2j 1 4"]

def nko : CharSet := .unpack
  ["1j4 1m 2 2"]

def nushu : CharSet := .unpack
  ["20o1 0 cy6 az"]

def nyiakengPuachueHmong : CharSet := .unpack
  ["2n0g 18 3 d 2 9 4 1"]

def ogham : CharSet := .unpack
  ["4g0 s"]

def olChiki : CharSet := .unpack
  ["5lc 1b"]

def oldHungarian : CharSet := .unpack
  ["1h1c 1e d 1e 7 5"]

def oldItalic : CharSet := .unpack
  ["1f5s z 9 2"]

def oldNorthArabian : CharSet := .unpack
  ["1gn4 v"]

def oldPermic : CharSet := .unpack
  ["1f80 16"]

def oldPersian : CharSet := .unpack
  ["1fa8 z 4 d"]

def oldSogdian : CharSet := .unpack
  ["1hj4 13"]

def oldSouthArabian : CharSet := .unpack
  ["1gm8 v"]

def oldTurkic : CharSet := .unpack
  ["1gxs 20"]

def oldUyghur : CharSet := .unpack
  ["1hm8 p"]

def oriya : CharSet := .unpack
  ["269 2 1 7 2 1 2 l 1 6 1 1 1 4 2 8 2 1 2 2 7 2 4 1 1 4 2 h"]

def osage : CharSet := .unpack
  ["1fhs z 4 z"]

def osmanya : CharSet := .unpack
  ["1fgg t 2 9"]

def pahawhHmong : CharSet := .unpack
  ["1zpc 1x a 9 1 6 1 k 5 i"]

def palmyrene : CharSet := .unpack
  ["1g80 v"]

def pauCinHau : CharSet := .unpack
  ["1juo 1k"]

def phagsPa : CharSet := .unpack
  ["x8g 1j"]

def phoenician : CharSet := .unpack
  ["1gcg r 3 0"]

def psalterPahlavi : CharSet := .unpack
  ["1gu8 h 7 3 c 6"]

def rejang : CharSet := .unpack
  ["xf4 z b 0"]

def runic : CharSet := .unpack
  ["4gw 22 3 a"]

def samaritan : CharSet := .unpack
  ["1kw 19 2 e"]

def saurashtra : CharSet := .unpack
  ["xa8 1x 8 b"]

def sharada : CharSet := .unpack
  ["1i0w 2n"]

def shavian : CharSet := .unpack
  ["1ff4 1b"]

def siddham : CharSet := .unpack
  ["1itc 1h 2 11"]

def signWriting : CharSet := .unpack
  ["2l8g i3 f 4 1 e"]

def sinhala : CharSet := .unpack
  ["2o1 2 1 h 3 n 1 8 1 0 2 6 3 0 4 5 1 0 1 7 6 9 2 2 1fcc j"]

def sogdian : CharSet := .unpack
  ["1hkg 15"]

def soraSompeng : CharSet := .unpack
  ["1hw0 o 7 9"]

def soyombo : CharSet := .unpack
  ["1jrk 2a"]

def sundanese : CharSet := .unpack
  ["5fk 1r 74 7"]

def sylotiNagri : CharSet := .unpack
  ["x6o 18"]

def syriac : CharSet := .unpack
  ["1ds d 1 1n 2 2 7k a"]

def tagalog : CharSet := .unpack
  ["4jk l 9 0"]

def tagbanwa : CharSet := .unpack
  ["4m8 c 1 2 1 1"]

def taiLe : CharSet := .unpack
  ["500 t 2 4"]

def taiTham : CharSet := .unpack
  ["55s 1q 1 s 2 a 6 9 6 d"]

def taiViet : CharSet := .unpack
  ["xog 1u o 4"]

def takri : CharSet := .unpack
  ["1j0g 1l 6 9"]

def tamil : CharSet := .unpack
  ["29u 1 1 5 3 2 1 3 3 1 1 0 1 1 3 1 3 2 3 b 4 4 3 2 1 3 2 0 6 0 e k 1ih1 1d d 0"]

def tangsa : CharSet := .unpack
  ["1zlc 26 1 9"]

def tangut : CharSet := .unpack
  ["20o0 0 v 4qf 8 lb e8 8"]

def telugu : CharSet := .unpack
  ["2dc c 1 2 1 m 1 f 2 8 1 2 1 3 7 1 1 2 2 0 2 3 2 9 7 8"]

def thaana : CharSet := .unpack
  ["1hc 1d"]

def thai : CharSet := .unpack
  ["2rl 1l 5 r"]

def tibetan : CharSet := .unpack
  ["2yo 1z 1 z 4 12 1 z 1 e 1 6 4 1"]

def tifinagh : CharSet := .unpack
  ["8xc 1j 7 1 e 0"]

def tirhuta : CharSet := .unpack
  ["1im8 1z 8 9"]

def toto : CharSet := .unpack
  ["2nbk u"]

def ugaritic : CharSet := .unpack
  ["1f9c t 1 0"]

def vai : CharSet := .unpack
  ["wlc 8b"]

def vithkuqi : CharSet := .unpack
  ["1fn4 a 1 e 1 6 1 1 1 a 1 e 1 6 1 1"]

def wancho : CharSet := .unpack
  ["2ncw 1l 5 0"]

def warangCiti : CharSet := .unpack
  ["1jfk 2a c 0"]

def yezidi : CharSet := .unpack
  ["1hfk 15 1 2 2 1"]

def yi : CharSet := .unpack
  ["vls wc 3 1i"]

def zanabazarSquare : CharSet := .unpack
  ["1jpc 1z"]

def byName : List (String × CharSet) :=
  [("adlam", adlam), ("adlm", adlam), ("ahom", ahom),
   ("anatolianhieroglyphs", anatolianHieroglyphs), ("hluw", anatolianHieroglyphs),
   ("arab", arabic), ("arabic", arabic), ("armenian", armenian), ("armn", armenian),
   ("avestan", avestan), ("avst", avestan), ("bali", balinese), ("balinese", balinese),
   ("bamu", bamum), ("bamum", bamum), ("bass", bassaVah), ("bassavah", bassaVah),
   ("batak", batak), ("batk", batak), ("beng", bengali), ("bengali", bengali),
   ("bhaiksuki", bhaiksuki), ("bhks", bhaiksuki), ("bopo", bopomofo),
   ("bopomofo", bopomofo), ("brah", brahmi), ("brahmi", brahmi), ("brai", braille),
   ("braille", braille), ("bugi", buginese), ("buginese", buginese), ("buhd", buhid),
   ("buhid", buhid), ("canadianaboriginal", canadianAboriginal),
   ("cans", canadianAboriginal), ("cari", carian), ("carian", carian),
   ("aghb", caucasianAlbanian), ("caucasianalbanian", caucasianAlbanian), ("cakm", chakma),
   ("chakma", chakma), ("cham", cham), ("cher", cherokee), ("cherokee", cherokee),
   ("chorasmian", chorasmian), ("chrs", chorasmian), ("common", common), ("zyyy", common),
   ("copt", coptic), ("coptic", coptic), ("qaac", coptic), ("cuneiform", cuneiform),
   ("xsux", cuneiform), ("cprt", cypriot), ("cypriot", cypriot), ("cpmn", cyproMinoan),
   ("cyprominoan", cyproMinoan), ("cyrillic", cyrillic), ("cyrl", cyrillic),
   ("deseret", deseret), ("dsrt", deseret), ("deva", devanagari),
   ("devanagari", devanagari), ("diak", divesAkuru), ("divesakuru", divesAkuru),
   ("dogr", dogra), ("dogra", dogra), ("dupl", duployan), ("duployan", duployan),
   ("egyp", egyptianHieroglyphs), ("egyptianhieroglyphs", egyptianHieroglyphs),
   ("elba", elbasan), ("elbasan", elbasan), ("elym", elymaic), ("elymaic", elymaic),
   ("ethi", ethiopic), ("ethiopic", ethiopic), ("geor", georgian), ("georgian", georgian),
   ("glag", glagolitic), ("glagolitic", glagolitic), ("goth", gothic), ("gothic", gothic),
   ("gran", grantha), ("grantha", grantha), ("greek", greek), ("grek", greek),
   ("gujarati", gujarati), ("gujr", gujarati), ("gong", gunjalaGondi),
   ("gunjalagondi", gunjalaGondi), ("gurmukhi", gurmukhi), ("guru", gurmukhi), ("han", han),
   ("hani", han), ("hang", hangul), ("hangul", hangul), ("hanifirohingya", hanifiRohingya),
   ("rohg", hanifiRohingya), ("hano", hanunoo), ("hanunoo", hanunoo), ("hatr", hatran),
   ("hatran", hatran), ("hebr", hebrew), ("hebrew", hebrew), ("hira", hiragana),
   ("hiragana", hiragana), ("armi", imperialAramaic), ("imperialaramaic", imperialAramaic),
   ("inherited", inherited), ("qaai", inherited), ("zinh", inherited),
   ("inscriptionalpahlavi", inscriptionalPahlavi), ("phli", inscriptionalPahlavi),
   ("inscriptionalparthian", inscriptionalParthian), ("prti", inscriptionalParthian),
   ("java", javanese), ("javanese", javanese), ("kaithi", kaithi), ("kthi", kaithi),
   ("kannada", kannada), ("knda", kannada), ("kana", katakana), ("katakana", katakana),
   ("kawi", kawi), ("kali", kayahLi), ("kayahli", kayahLi), ("khar", kharoshthi),
   ("kharoshthi", kharoshthi), ("khitansmallscript", khitanSmallScript),
   ("kits", khitanSmallScript), ("khmer", khmer), ("khmr", khmer), ("khoj", khojki),
   ("khojki", khojki), ("khudawadi", khudawadi), ("sind", khudawadi), ("lao", lao),
   ("laoo", lao), ("latin", latin), ("latn", latin), ("lepc", lepcha), ("lepcha", lepcha),
   ("limb", limbu), ("limbu", limbu), ("lina", linearA), ("lineara", linearA),
   ("linb", linearB), ("linearb", linearB), ("lisu", lisu), ("lyci", lycian),
   ("lycian", lycian), ("lydi", lydian), ("lydian", lydian), ("mahajani", mahajani),
   ("mahj", mahajani), ("maka", makasar), ("makasar", makasar), ("malayalam", malayalam),
   ("mlym", malayalam), ("mand", mandaic), ("mandaic", mandaic), ("mani", manichaean),
   ("manichaean", manichaean), ("marc", marchen), ("marchen", marchen),
   ("gonm", masaramGondi), ("masaramgondi", masaramGondi), ("medefaidrin", medefaidrin),
   ("medf", medefaidrin), ("meeteimayek", meeteiMayek), ("mtei", meeteiMayek),
   ("mend", mendeKikakui), ("mendekikakui", mendeKikakui), ("merc", meroiticCursive),
   ("meroiticcursive", meroiticCursive), ("mero", meroiticHieroglyphs),
   ("meroitichieroglyphs", meroiticHieroglyphs), ("miao", miao), ("plrd", miao),
   ("modi", modi), ("mong", mongolian), ("mongolian", mongolian), ("mro", mro),
   ("mroo", mro), ("mult", multani), ("multani", multani), ("myanmar", myanmar),
   ("mymr", myanmar), ("nabataean", nabataean), ("nbat", nabataean), ("nagm", nagMundari),
   ("nagmundari", nagMundari), ("nand", nandinagari), ("nandinagari", nandinagari),
   ("newtailue", newTaiLue), ("talu", newTaiLue), ("newa", newa), ("nko", nko),
   ("nkoo", nko), ("nshu", nushu), ("nushu", nushu), ("hmnp", nyiakengPuachueHmong),
   ("nyiakengpuachuehmong", nyiakengPuachueHmong), ("ogam", ogham), ("ogham", ogham),
   ("olchiki", olChiki), ("olck", olChiki), ("hung", oldHungarian),
   ("oldhungarian", oldHungarian), ("ital", oldItalic), ("olditalic", oldItalic),
   ("narb", oldNorthArabian), ("oldnortharabian", oldNorthArabian),
   ("oldpermic", oldPermic), ("perm", oldPermic), ("oldpersian", oldPersian),
   ("xpeo", oldPersian), ("oldsogdian", oldSogdian), ("sogo", oldSogdian),
   ("oldsoutharabian", oldSouthArabian), ("sarb", oldSouthArabian),
   ("oldturkic", oldTurkic), ("orkh", oldTurkic), ("olduyghur", oldUyghur),
   ("ougr", oldUyghur), ("oriya", oriya), ("orya", oriya), ("osage", osage),
   ("osge", osage), ("osma", osmanya), ("osmanya", osmanya), ("hmng", pahawhHmong),
   ("pahawhhmong", pahawhHmong), ("palm", palmyrene), ("palmyrene", palmyrene),
   ("pauc", pauCinHau), ("paucinhau", pauCinHau), ("phag", phagsPa), ("phagspa", phagsPa),
   ("phnx", phoenician), ("phoenician", phoenician), ("phlp", psalterPahlavi),
   ("psalterpahlavi", psalterPahlavi), ("rejang", rejang), ("rjng", rejang),
   ("runic", runic), ("runr", runic), ("samaritan", samaritan), ("samr", samaritan),
   ("saur", saurashtra), ("saurashtra", saurashtra), ("sharada", sharada),
   ("shrd", sharada), ("shavian", shavian), ("shaw", shavian), ("sidd", siddham),
   ("siddham", siddham), ("sgnw", signWriting), ("signwriting", signWriting),
   ("sinh", sinhala), ("sinhala", sinhala), ("sogd", sogdian), ("sogdian", sogdian),
   ("sora", soraSompeng), ("sorasompeng", soraSompeng), ("soyo", soyombo),
   ("soyombo", soyombo), ("sund", sundanese), ("sundanese", sundanese),
   ("sylo", sylotiNagri), ("sylotinagri", sylotiNagri), ("syrc", syriac),
   ("syriac", syriac), ("tagalog", tagalog), ("tglg", tagalog), ("tagb", tagbanwa),
   ("tagbanwa", tagbanwa), ("taile", taiLe), ("tale", taiLe), ("lana", taiTham),
   ("taitham", taiTham), ("taiviet", taiViet), ("tavt", taiViet), ("takr", takri),
   ("takri", takri), ("tamil", tamil), ("taml", tamil), ("tangsa", tangsa),
   ("tnsa", tangsa), ("tang", tangut), ("tangut", tangut), ("telu", telugu),
   ("telugu", telugu), ("thaa", thaana), ("thaana", thaana), ("thai", thai),
   ("tibetan", tibetan), ("tibt", tibetan), ("tfng", tifinagh), ("tifinagh", tifinagh),
   ("tirh", tirhuta), ("tirhuta", tirhuta), ("toto", toto), ("ugar", ugaritic),
   ("ugaritic", ugaritic), ("vai", vai), ("vaii", vai), ("vith", vithkuqi),
   ("vithkuqi", vithkuqi), ("wancho", wancho), ("wcho", wancho), ("wara", warangCiti),
   ("warangciti", warangCiti), ("yezi", yezidi), ("yezidi", yezidi), ("yi", yi),
   ("yiii", yi), ("zanabazarsquare", zanabazarSquare), ("zanb", zanabazarSquare)]

end LintDesk.Unicode.Script
