import TemplateRegistry.Text.Blank
import TemplateRegistry.Text.Range
/-!
# Variants of characters

In a name some characters stand for others: capitals and wide, raised, circled
or joined forms for plain characters, and some for none at all.  A variant that
is a letter, and stands for letters of its own direction without marks, can stay
in the text as it is; the others are spelled out.  The sets follow the Unicode
properties of version 17.

This is the mapping of characters that comes first when an international domain
name is read, here as far as it decides whether the host in the address of a
database is accepted (`Address.fold`, `Address.isFolded`).  What stays as it is
makes no difference to that: it has the direction, and the lack of marks, of the
letters that it stands for.

* `isSilent` — the characters that stand for none;
* `spelling?` — what a variant spells out;
* `isVariant` — the characters that stand for others, or for none;
* `foldName` — a name with its variants spelled out.
-/

namespace TemplateRegistry.Text

/-- The characters that stand for none, as ranges. -/
def silent : List (Nat × Nat) :=
  [(0xAD, 0xAD), (0x34F, 0x34F), (0x115F, 0x1160), (0x17B4, 0x17B5),
   (0x180B, 0x180F), (0x200B, 0x200B), (0x2060, 0x2064), (0x206A, 0x206F),
   (0x3164, 0x3164), (0xFE00, 0xFE0F), (0xFEFF, 0xFEFF), (0xFFA0, 0xFFA0),
   (0x1BCA0, 0x1BCA3), (0x1D173, 0x1D17A), (0xE0100, 0xE01EF)]

/-- What variants below U+2100 spell out, in order from a code point on. -/
def spellingsLow : List (Nat × String) :=
  [(0xAA, "a"), (0xB2, "2 3"), (0xB9, "1 o"), (0xBC, "1⁄4 1⁄2 3⁄4"),
   (0x130, "i\u0307"), (0x132, "ij ij"), (0x13F, "l· l·"), (0x17F, "s"),
   (0x1C7, "lj lj lj nj nj nj"), (0x1F1, "dz dz dz"), (0x2B0, "h"),
   (0x2B2, "j r"), (0x2B7, "w y"), (0x2E1, "l s x"), (0x340, "\u0300 \u0301"),
   (0x343, "\u0313 \u0308\u0301 ι"), (0x37E, ";"),
   (0x958, "क\u093C ख\u093C ग\u093C ज\u093C ड\u093C ढ\u093C फ\u093C य\u093C"),
   (0x9DC, "ড\u09BC ঢ\u09BC"), (0x9DF, "য\u09BC"), (0xA33, "ਲ\u0A3C"),
   (0xA36, "ਸ\u0A3C"), (0xA59, "ਖ\u0A3C ਗ\u0A3C ਜ\u0A3C"), (0xA5E, "ਫ\u0A3C"),
   (0xB5C, "ଡ\u0B3C ଢ\u0B3C"), (0xE33, "\u0E4Dา"), (0xEB3, "\u0ECDາ"),
   (0xF73, "\u0F71\u0F72"),
   (0xF75,
     "\u0F71\u0F74 \u0FB2\u0F80 \u0FB2\u0F71\u0F80 \u0FB3\u0F80 \u0FB3\u0F71\u0F80"),
   (0xF81, "\u0F71\u0F80"), (0xF93, "\u0F92\u0FB7"), (0xF9D, "\u0F9C\u0FB7"),
   (0xFA2, "\u0FA1\u0FB7"), (0xFA7, "\u0FA6\u0FB7"), (0xFAC, "\u0FAB\u0FB7"),
   (0xFB9, "\u0F90\u0FB5"), (0x1D2C, "a"), (0x1D2E, "b"), (0x1D30, "d e"),
   (0x1D33, "g h i j k l m n"), (0x1D3C, "o"), (0x1D3E, "p r t u w a"),
   (0x1D47, "b d e"), (0x1D4D, "g"), (0x1D4F, "k m"), (0x1D52, "o"),
   (0x1D56, "p t u"), (0x1D5B, "v"), (0x1D62, "i r u v"), (0x1D9C, "c"),
   (0x1DA0, "f"), (0x1DBB, "z"), (0x1FEF, "`"), (0x203C, "!!"),
   (0x2047, "?? ?! !?"), (0x2070, "0 i"), (0x2074, "4 5 6 7 8 9 +"),
   (0x207C, "= ( ) n 0 1 2 3 4 5 6 7 8 9 +"), (0x208C, "= ( )"),
   (0x2090, "a e o x"), (0x2095, "h k l m n p s t"), (0x20A8, "rs")]

/-- What variants from U+2100 to U+FFFF spell out, in order from a code point
on. -/
def spellingsMiddle : List (Nat × String) :=
  [(0x2100, "a/c a/s c °c"), (0x2105, "c/o c/u"), (0x2109, "°f g h h h h"),
   (0x2110, "i i l l"), (0x2115, "n no"), (0x2119, "p q r r r"),
   (0x2120, "sm tel tm"), (0x2124, "z"), (0x2128, "z"), (0x212A, "k"),
   (0x212C, "b c"), (0x212F, "e e f"), (0x2133, "m o"), (0x2139, "i"),
   (0x213B, "fax"), (0x2145, "d d e i j"),
   (0x2150,
     "1⁄7 1⁄9 1⁄10 1⁄3 2⁄3 1⁄5 2⁄5 3⁄5 4⁄5 1⁄6 5⁄6 1⁄8 3⁄8 5⁄8 7⁄8 1⁄ i ii iii iv v vi"),
   (0x2166,
     "vii viii ix x xi xii l c d m i ii iii iv v vi vii viii ix x xi xii l c d m"),
   (0x2189, "0⁄3"),
   (0x2460,
     "1 2 3 4 5 6 7 8 9 10 11 12 13 14 15 16 17 18 19 20 (1) (2) (3) (4) (5) (6) (7)"),
   (0x247B, "(8) (9) (10) (11) (12) (13) (14) (15) (16) (17) (18) (19) (20)"),
   (0x249C,
     "(a) (b) (c) (d) (e) (f) (g) (h) (i) (j) (k) (l) (m) (n) (o) (p) (q) (r) (s) (t)"),
   (0x24B0,
     "(u) (v) (w) (x) (y) (z) a b c d e f g h i j k l m n o p q r s t u v w x y z a b"),
   (0x24D2, "c d e f g h i j k l m n o p q r s t u v w x y z 0"),
   (0x2A74, "::= == ==="), (0x2ADC, "⫝\u0338"), (0x2C7C, "j v"), (0x3002, "."),
   (0x3200,
     "(ᄀ) (ᄂ) (ᄃ) (ᄅ) (ᄆ) (ᄇ) (ᄉ) (ᄋ) (ᄌ) (ᄎ) (ᄏ) (ᄐ) (ᄑ) (ᄒ) (가) (나) (다) (라) (마) (바)"),
   (0x3214, "(사) (아) (자) (차) (카) (타) (파) (하) (주) (오전) (오후)"),
   (0x3220,
     "(一) (二) (三) (四) (五) (六) (七) (八) (九) (十) (月) (火) (水) (木) (金) (土) (日) (株) (有) (社)"),
   (0x3234, "(名) (特) (財) (祝) (労) (代) (呼) (学) (監) (企) (資) (協) (祭) (休) (自) (至)"),
   (0x3250, "pte 21 22 23 24 25 26 27 28 29 30 31 32 33 34 35"),
   (0x32B1,
     "36 37 38 39 40 41 42 43 44 45 46 47 48 49 50 1月 2月 3月 4月 5月 6月 7月 8月 9月 10月 11月"),
   (0x32CB, "12月 hg erg ev ltd"),
   (0x3358,
     "0点 1点 2点 3点 4点 5点 6点 7点 8点 9点 10点 11点 12点 13点 14点 15点 16点 17点 18点 19点 20点 21点"),
   (0x336E, "22点 23点 24点 hpa da au bar ov pc dm dm2 dm3 iu"), (0x3380, "pa na"),
   (0x3383, "ma ka kb mb gb cal kcal pf nf"),
   (0x338E, "mg kg hz khz mhz ghz thz"), (0x3396, "ml dl kl fm nm"),
   (0x339C,
     "mm cm km mm2 cm2 m2 km2 mm3 cm3 m3 km3 m∕s m∕s2 pa kpa mpa gpa rad rad∕s rad∕s2"),
   (0x33B0, "ps ns"), (0x33B3, "ms pv nv"), (0x33B7, "mv kv mv pw nw"),
   (0x33BD, "mw kw mw"), (0x33C3, "bq cc cd c∕kg"),
   (0x33C8, "db gy ha hp in kk km kt lm ln log lx mb mil mol ph"),
   (0x33D9,
     "ppm pr sr sv wb v∕m a∕m 1日 2日 3日 4日 5日 6日 7日 8日 9日 10日 11日 12日 13日 14日 15日 16日"),
   (0x33F0, "17日 18日 19日 20日 21日 22日 23日 24日 25日 26日 27日 28日 29日 30日 31日 gal"),
   (0xA7F1, "s c f q"), (0xFB00, "ff fi fl ffi ffl st st"), (0xFB1D, "י\u05B4"),
   (0xFB1F, "ײ\u05B7"),
   (0xFB29,
     "+ ש\u05C1 ש\u05C2 ש\u05BC\u05C1 ש\u05BC\u05C2 א\u05B7 א\u05B8 א\u05BC ב\u05BC"),
   (0xFB32, "ג\u05BC ד\u05BC ה\u05BC ו\u05BC ז\u05BC"),
   (0xFB38, "ט\u05BC י\u05BC ך\u05BC כ\u05BC ל\u05BC"), (0xFB3E, "מ\u05BC"),
   (0xFB40, "נ\u05BC ס\u05BC"), (0xFB43, "ף\u05BC פ\u05BC"),
   (0xFB46,
     "צ\u05BC ק\u05BC ר\u05BC ש\u05BC ת\u05BC ו\u05B9 ב\u05BF כ\u05BF פ\u05BF"),
   (0xFC5B, "ذ\u0670 ر\u0670 ى\u0670"), (0xFC90, "ى\u0670"),
   (0xFCD9, "ه\u0670"), (0xFCF2, "ـ\u064E\u0651 ـ\u064F\u0651 ـ\u0650\u0651"),
   (0xFD3C, "ا\u064B ا\u064B"), (0xFE10, ","), (0xFE13, ": ; ! ?"),
   (0xFE33, "_ _ ( ) \x7b \x7d"), (0xFE47, "[ ]"), (0xFE4D, "_ _ _ ,"),
   (0xFE54, "; : ? !"), (0xFE59, "( ) \x7b \x7d"), (0xFE5F, "# & * + - < > ="),
   (0xFE68, "\\ $ % @"), (0xFE71, "ـ\u064B"), (0xFE77, "ـ\u064E"),
   (0xFE79, "ـ\u064F"), (0xFE7B, "ـ\u0650"), (0xFE7D, "ـ\u0651"),
   (0xFE7F, "ـ\u0652"),
   (0xFF01,
     "! \" # $ % & ' ( ) * + , - . / 0 1 2 3 4 5 6 7 8 9 : ; < = > ? @ a b c d e f g h"),
   (0xFF29,
     "i j k l m n o p q r s t u v w x y z [ \\ ] ^ _ ` a b c d e f g h i j k l m n o p"),
   (0xFF51, "q r s t u v w x y z \x7b | \x7d ~"), (0xFF61, "."),
   (0xFF9E, "\u3099 \u309A")]

/-- What variants from U+10000 spell out, in order from a code point on. -/
def spellingsHigh : List (Nat × String) :=
  [(0x107A5, "q"),
   (0x1CCD6,
     "a b c d e f g h i j k l m n o p q r s t u v w x y z 0 1 2 3 4 5 6 7 8 9"),
   (0x1D15E, "𝅗𝅥 𝅘𝅥 𝅘𝅥𝅮 𝅘𝅥𝅯 𝅘𝅥𝅰 𝅘𝅥𝅱 𝅘𝅥𝅲"), (0x1D1BB, "𝆹𝅥 𝆺𝅥 𝆹𝅥𝅮 𝆺𝅥𝅮 𝆹𝅥𝅯 𝆺𝅥𝅯"),
   (0x1D400,
     "a b c d e f g h i j k l m n o p q r s t u v w x y z a b c d e f g h i j k l m n"),
   (0x1D428,
     "o p q r s t u v w x y z a b c d e f g h i j k l m n o p q r s t u v w x y z a b"),
   (0x1D450, "c d e f g"),
   (0x1D456,
     "i j k l m n o p q r s t u v w x y z a b c d e f g h i j k l m n o p q r s t u v"),
   (0x1D47E, "w x y z a b c d e f g h i j k l m n o p q r s t u v w x y z a"),
   (0x1D49E, "c d"), (0x1D4A2, "g"), (0x1D4A5, "j k"), (0x1D4A9, "n o p q"),
   (0x1D4AE, "s t u v w x y z a b c d"), (0x1D4BB, "f"),
   (0x1D4BD, "h i j k l m n"),
   (0x1D4C5,
     "p q r s t u v w x y z a b c d e f g h i j k l m n o p q r s t u v w x y z a b c"),
   (0x1D4ED, "d e f g h i j k l m n o p q r s t u v w x y z a b"),
   (0x1D507, "d e f g"), (0x1D50D, "j k l m n o p q"),
   (0x1D516, "s t u v w x y"),
   (0x1D51E, "a b c d e f g h i j k l m n o p q r s t u v w x y z a b"),
   (0x1D53B, "d e f g"), (0x1D540, "i j k l m"), (0x1D546, "o"),
   (0x1D54A, "s t u v w x y"),
   (0x1D552,
     "a b c d e f g h i j k l m n o p q r s t u v w x y z a b c d e f g h i j k l m n"),
   (0x1D57A,
     "o p q r s t u v w x y z a b c d e f g h i j k l m n o p q r s t u v w x y z a b"),
   (0x1D5A2,
     "c d e f g h i j k l m n o p q r s t u v w x y z a b c d e f g h i j k l m n o p"),
   (0x1D5CA,
     "q r s t u v w x y z a b c d e f g h i j k l m n o p q r s t u v w x y z a b c d"),
   (0x1D5F2,
     "e f g h i j k l m n o p q r s t u v w x y z a b c d e f g h i j k l m n o p q r"),
   (0x1D61A,
     "s t u v w x y z a b c d e f g h i j k l m n o p q r s t u v w x y z a b c d e f"),
   (0x1D642,
     "g h i j k l m n o p q r s t u v w x y z a b c d e f g h i j k l m n o p q r s t"),
   (0x1D66A,
     "u v w x y z a b c d e f g h i j k l m n o p q r s t u v w x y z a b c d e f g h"),
   (0x1D692, "i j k l m n o p q r s t u v w x y z"),
   (0x1D7CE,
     "0 1 2 3 4 5 6 7 8 9 0 1 2 3 4 5 6 7 8 9 0 1 2 3 4 5 6 7 8 9 0 1 2 3 4 5 6 7 8 9"),
   (0x1D7F6, "0 1 2 3 4 5 6 7 8 9"), (0x1F101, "0, 1, 2, 3, 4, 5, 6, 7, 8, 9,"),
   (0x1F110,
     "(a) (b) (c) (d) (e) (f) (g) (h) (i) (j) (k) (l) (m) (n) (o) (p) (q) (r) (s) (t)"),
   (0x1F124, "(u) (v) (w) (x) (y) (z) 〔s〕 c r cd wz"),
   (0x1F130,
     "a b c d e f g h i j k l m n o p q r s t u v w x y z hv mv sd ss ppv wc"),
   (0x1F16A, "mc md mr"), (0x1F190, "dj"),
   (0x1F240, "〔本〕 〔三〕 〔二〕 〔安〕 〔点〕 〔打〕 〔盗〕 〔勝〕 〔敗〕"),
   (0x1FBF0, "0 1 2 3 4 5 6 7 8 9")]

/-- The characters that stand for others from U+00B5 to U+2037, as ranges. -/
def variantLow : List (Nat × Nat) :=
  [(0xB5, 0xB5), (0xC0, 0xD6), (0xD8, 0xDE), (0x134, 0x134), (0x136, 0x136),
   (0x181, 0x181), (0x187, 0x187), (0x189, 0x18B), (0x18E, 0x191),
   (0x193, 0x194), (0x196, 0x198), (0x19C, 0x19D), (0x19F, 0x19F),
   (0x1A7, 0x1A7), (0x1A9, 0x1A9), (0x1AC, 0x1AC), (0x1AE, 0x1AF),
   (0x1B1, 0x1B2), (0x1B8, 0x1B8), (0x1BC, 0x1BC), (0x1C4, 0x1C6),
   (0x1F4, 0x1F4), (0x1F6, 0x1F7), (0x23A, 0x23B), (0x23D, 0x23E),
   (0x241, 0x241), (0x243, 0x245), (0x2B1, 0x2B6), (0x2E0, 0x2E4),
   (0x37F, 0x38F), (0x391, 0x3AB), (0x3CF, 0x3D5), (0x3F1, 0x3F2),
   (0x3F4, 0x3F4), (0x3FA, 0x3FA), (0x3FD, 0x42F), (0x531, 0x556),
   (0x587, 0x587), (0x675, 0x678), (0xEDC, 0xEDD), (0xF0C, 0xF0C),
   (0xF43, 0xF43), (0xF4D, 0xF4D), (0xF52, 0xF52), (0xF57, 0xF57),
   (0xF5C, 0xF5C), (0xF69, 0xF69), (0x10A0, 0x10CD), (0x10FC, 0x10FC),
   (0x13F8, 0x13FD), (0x1C80, 0x1C89), (0x1C90, 0x1CBF), (0x1D2D, 0x1D2D),
   (0x1D32, 0x1D32), (0x1D3D, 0x1D4C), (0x1D51, 0x1D6A), (0x1D78, 0x1D78),
   (0x1D9B, 0x1DBF), (0x1E9A, 0x1E9B), (0x1F08, 0x1F0F), (0x1F18, 0x1F1D),
   (0x1F28, 0x1F2F), (0x1F38, 0x1F3F), (0x1F48, 0x1F4D), (0x1F59, 0x1F5F),
   (0x1F68, 0x1F6E), (0x1F80, 0x1FAF), (0x1FB2, 0x1FB4), (0x1FB7, 0x1FC4),
   (0x1FC7, 0x1FCC), (0x1FD3, 0x1FD3), (0x1FD8, 0x1FDB), (0x1FE3, 0x1FE3),
   (0x1FE8, 0x1FF4), (0x1FF7, 0x1FFC), (0x2011, 0x2011), (0x2033, 0x2034),
   (0x2036, 0x2037)]

/-- The characters that stand for others from U+2057 to U+2FA1D, as ranges. -/
def variantHigh : List (Nat × Nat) :=
  [(0x2057, 0x2057), (0x207B, 0x2094), (0x2107, 0x2107), (0x210F, 0x210F),
   (0x2126, 0x2126), (0x212B, 0x212B), (0x2132, 0x2138), (0x213C, 0x2140),
   (0x2183, 0x2183), (0x222C, 0x222D), (0x222F, 0x2230), (0x2329, 0x232A),
   (0x2A0C, 0x2A0C), (0x2C00, 0x2C2F), (0x2C60, 0x2C60), (0x2C62, 0x2C64),
   (0x2C6E, 0x2C70), (0x2C72, 0x2C72), (0x2C75, 0x2C75), (0x2C7E, 0x2C7F),
   (0x2CEB, 0x2CEB), (0x2CED, 0x2CED), (0x2CF2, 0x2CF2), (0x2D6F, 0x2D6F),
   (0x2E9F, 0x2E9F), (0x2EF3, 0x2FD5), (0x3036, 0x3036), (0x3038, 0x303A),
   (0x309F, 0x309F), (0x30FF, 0x30FF), (0x3131, 0x318E), (0x3192, 0x319F),
   (0x3244, 0x3247), (0x3260, 0x327E), (0x3280, 0x33C1), (0xA69D, 0xA69D),
   (0xA78B, 0xA78B), (0xA78D, 0xA78D), (0xA790, 0xA790), (0xA792, 0xA792),
   (0xA7AB, 0xA7AE), (0xA7B0, 0xA7B3), (0xA7C5, 0xA7C6), (0xA7F5, 0xA7F5),
   (0xA7F8, 0xA7F9), (0xAB5C, 0xAB5F), (0xAB69, 0xAB69), (0xAB70, 0xABBF),
   (0xF900, 0xFA0D), (0xFA10, 0xFA10), (0xFA12, 0xFA12), (0xFA15, 0xFA1D),
   (0xFA25, 0xFA26), (0xFA2A, 0xFB17), (0xFB20, 0xFBB1), (0xFBD3, 0xFD3B),
   (0xFD50, 0xFD8F), (0xFD92, 0xFDC7), (0xFDF0, 0xFDFC), (0xFE11, 0xFE18),
   (0xFE31, 0xFE44), (0xFE51, 0xFE5E), (0xFE80, 0xFFEE), (0x10400, 0x10427),
   (0x104B0, 0x104D3), (0x10570, 0x10595), (0x10781, 0x107BA),
   (0x10C80, 0x10CB2), (0x10D50, 0x10D65), (0x118A0, 0x118BF),
   (0x16E40, 0x16E5F), (0x16EA0, 0x16EB8), (0x1D6A4, 0x1D7CB),
   (0x1E030, 0x1E06D), (0x1E900, 0x1E921), (0x1EE00, 0x1EEBB),
   (0x1F200, 0x1F251), (0x2F800, 0x2FA1D)]

/-- Ranges of which every second character stands for another, most of them
capitals. -/
def capitals : List (Nat × Nat) :=
  [(0x100, 0x12E), (0x139, 0x13D), (0x141, 0x149), (0x14A, 0x178),
   (0x179, 0x17D), (0x182, 0x186), (0x1A0, 0x1A6), (0x1B3, 0x1B7),
   (0x1CD, 0x1DB), (0x1DE, 0x1EE), (0x1F8, 0x232), (0x246, 0x24E),
   (0x370, 0x376), (0x3D6, 0x3F0), (0x3F5, 0x3F9), (0x460, 0x480),
   (0x48A, 0x4C0), (0x4C1, 0x4CD), (0x4D0, 0x52E), (0x1E00, 0x1E94),
   (0x1E9E, 0x1EFE), (0x1F6F, 0x1F7D), (0x2C67, 0x2C6D), (0x2C80, 0x2CE2),
   (0xA640, 0xA66C), (0xA680, 0xA69C), (0xA722, 0xA72E), (0xA732, 0xA770),
   (0xA779, 0xA77D), (0xA77E, 0xA786), (0xA796, 0xA7AA), (0xA7B4, 0xA7C4),
   (0xA7C7, 0xA7CB), (0xA7CC, 0xA7DC), (0xFA1E, 0xFA22)]

/-- A character that stands for none. -/
def isSilent (c : Char) : Bool :=
  inRanges silent c

/-- What a character spells out by a row of a table: a code point and the words
for the characters from it on. -/
def spellingIn? (c : Char) (row : Nat × String) : Option (List Char) :=
  if row.1 ≤ c.toNat then
    (splitWhen (fun mark => mark = ' ') row.2.toList)[c.toNat - row.1]?
  else none

/-- What a variant spells out. -/
def spelling? (c : Char) : Option (List Char) :=
  (spellingsLow ++ spellingsMiddle ++ spellingsHigh).findSome? (spellingIn? c)

/-- A character that stands for others, or for none. -/
def isVariant (c : Char) : Bool :=
  c.isUpper || isSilent c || (spelling? c).isSome || inStrides capitals c ||
    inRanges variantLow c || inRanges variantHigh c

/-- The characters that a character of a name stands for. -/
def foldChar (c : Char) : List Char :=
  if c.toNat < 0x80 then [c.toLower]
  else if isSilent c then []
  else (spelling? c).getD [c]

/-- A name with its variants spelled out. -/
def foldName (name : List Char) : List Char :=
  name.flatMap foldChar

end TemplateRegistry.Text
