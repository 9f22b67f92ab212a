import Reshape.Text.Table

/-! Sets of code points that patterns and names refer to, and the script of each code point. -/

namespace Reshape.Letters

/-- The alphabetic code points. -/
def alphabetic : Table :=
  .ofText (String.join [
    "1t q 6 q 1b 1 a 1 4 1 5 n 1 v 1 cq 4 c e 5 7 1 1 1 2e 1 16 5 1 2 2 4 1 1 6 1 1 3 1 1 1 k ",
    "1 2b 1 3v 8 4m 1 12 2 1 6 15 13 e 1 1 1 2 1 2 1 1 8 r 4 4 t b 5 1k 1 7 e 2u 1 8 4 8 4 3 a ",
    "3 2 1 g 1c d 2t o x 9 2 4 1 5 o 2 j j p 7 b 5 o 1 6 h 16 a c 3 7 6 24 1 g 1 3 4 f d j 1 8 ",
    "2 2 2 m 1 7 1 1 3 4 3 8 2 2 2 2 1 1 8 1 4 2 1 5 c 2 a 1 4 3 1 6 4 2 2 m 1 7 1 2 1 2 1 2 4 ",
    "5 4 2 2 2 4 1 7 4 1 1 h 6 b 3 1 9 1 3 1 m 1 7 1 2 1 5 3 9 1 3 1 2 3 1 f 4 l 4 4 3 1 8 2 2 ",
    "2 m 1 7 1 2 1 5 3 8 2 2 2 2 9 2 4 2 1 5 d 1 g 2 1 6 3 3 1 4 3 2 1 1 1 2 3 2 3 3 3 c 4 5 3 ",
    "3 1 3 3 1 6 1 14 d 1 3 1 n 1 g 3 8 1 3 1 3 8 2 1 3 2 1 2 4 s 4 1 8 1 3 1 n 1 a 1 5 3 8 1 ",
    "3 1 3 8 2 6 2 1 4 d 3 c d 1 3 1 15 2 8 1 3 1 3 1 1 5 4 7 5 m 6 1 3 1 i 3 o 1 9 1 1 2 7 8 ",
    "6 1 1 1 8 i 2 d 1m 5 7 6 1 1f 2 1 1 1 5 1 o 1 1 1 j 1 3 2 5 1 1 6 1 e 4 w 1 1r 8 1 10 4 j ",
    "4 g 1 10 1v 1j 1 1 2 5 g 1s a 4 2 12 1 1 5 1 2 17 1 99 1 4 2 7 1 1 1 4 2 15 1 4 2 x 1 4 2 ",
    "7 1 1 1 4 2 f 1 1l 1 4 2 1v 11 g g 2e 2 6 3 h8 2 h 1 q 5 23 3 b 7 k b l c k c d 1 3 1 2 c ",
    "1g 2 j e 1 4 1 1v 2h 7 17 5 1y a v 1 c 4 9 n u 2 5 b 18 4 q 1i s 4 1r 2 k 1e 1 n 2 b 3 1d ",
    "1g 1 f 1 8 1f 16 2 4 a 18 1 b e 1j m 3 a 10 2 9 7 17 2 3 15 4 1 6 1 2 3 1 5 5c 13 e b 7q ",
    "2 6 2 12 2 6 2 8 1 1 1 1 1 1 1 v 2 1h 1 7 1 1 3 3 1 7 3 4 2 6 4 d 5 3 1 7 38 1 d 1 g d 2t ",
    "1 4 1 2 a 1 1 3 5 6 1 1 1 1 1 1 4 1 b 2 4 5 5 4 1 h 15 ml 1g 1ee 6d 6 4 3 2 c 12 1 1 5 1 ",
    "2 1k 7 1 g n 9 7 1 7 1 7 1 7 1 7 1 7 1 7 1 7 1 w 1b 1 d1 3 p 9 7 5 2 5 4 2e 6 3 1 2i 1 4 ",
    "5 17 1 2m h w 1c g e8 534 1s h3h 1v 1a 2 7h 3 g a 2 k 1b 5 8 3 35 13 9 2 2v 2 1s 5 2 1 1 ",
    "1 5 o k 1 x o 1g c 1w 1 1 18 6 3 1 1 3 a x 5 z d t 3 1f 1 c f 1 g g a 5 1 1j 9 e i n 3 1x ",
    "1 1 1 1 o 3 2 g 2 4 b 6 2 6 2 6 9 7 1 7 1 17 1 e 6 3f l 8mc c n 4 1d 6is a6 2 2y 12 7 c 5 ",
    "5 c 1 d 1 5 1 1 1 2 1 2 1 30 x a3 i 1s 2 1i 14 c 38 5 1 3r 10 q 6 q b 2h 3 6 2 6 2 6 2 3 ",
    "z c 1 q 1 j 1 2 1 f 2 e y 3f 1x 1h 7f t 3 1d 1b w d u 5 17 5 u 2 10 4 8 1 5 16 4e i 10 4 ",
    "10 4 14 8 1g c b 1 f 1 7 1 2 1 b 1 f 1 7 1 2 1v 8n 9 m a 8 o 6 1 16 1 9 1x 6 2 1 1 18 1 2 ",
    "3 1 2 n a n 9 v 1t j 1 2 a m a q 1y 1k 6 2 1s 4 1 2 5 8 1 3 1 t 16 t 3 t z 8 1 s r 1i a m ",
    "a j d i 32 21 1j 1f d 1f d 14 9k 16 1 2 3 2 26 t a 1 8 m 16 i 1a l r n 9 1y 17 5 a 1l 9 1 ",
    "d p n 1f h 4 8 z 3 1 9 1s 1 4 9 2 a 1 1 1 z i 1 y 2 1 6 4 1q 7 1 1 1 4 1 f 1 a 7 1l n 4 1 ",
    "8 2 2 2 m 1 7 1 2 1 5 3 8 2 2 2 2 3 1 6 1 5 7 4c 1u 1 3 1 4 k 3 u 1u 2 2 1 1 54 1i 2 7 p ",
    "6 y 1r 1 1 3 1 1n 1i 2 1 1z r 2 e l 7 55 1l 2v 1s v 8 2 1 2 8 1 2 1 u 1 2 2 2 2 4 2l 8 2 ",
    "1a 2 6 1 1 1 2 r 1f 2 a h 20 5 1 i 21 7b 9 1 19 1 7 1 1 1d u 2 m 1 e 21 7 1 2 1 18 3 1 1 ",
    "2 1 3 1 1 2 2 o 6 1 2 1 11 1 2 1 4 1 1 93 n 9 h 1 15 3 3 33 1 27 pm 2u 33 h 5g 218 2p f ",
    "ts h 6 33t g7 6nt ft 7 v h 27 h u i 1c g 4 v l 5 j j4 1s 3k 23 4 1l 7 h 1s 2 1 1 c 2 e ",
    "4qg 8 ye 16 9 6w7 4 1 7 1 2 1 83 f 1 t 3 2 1 e 4 8 b0 1s4 2z 5 d 3 9 7 a 4 1 4m9 2d 1 1z ",
    "1 2 2 1 2 2 2 4 1 c 1 1 1 7 1 1t 1 4 2 8 1 7 1 s 1 4 1 5 1 1 3 7 1 9g 2 p 1 p 1 v 1 p 1 v ",
    "1 p 1 v 1 p 1 v 1 p 1 8 1f8 v 6 6 5x 7 1 h 2 7 1 2 1 5 5 1q x 1 34 19 a 7 g 1 8x u i 18 ",
    "dg s l0 7 1 4 1 2 1 f 1 5h 1n 1w 3 1 3 1 xg 4 1 r 1 2 1 1 2 1 1 a 1 4 1 1 1 1 6 1 4 1 1 1 ",
    "1 1 1 3 1 2 1 1 2 1 1 1 1 1 1 1 1 1 1 2 1 1 2 4 1 7 1 4 1 4 1 1 1 a 1 h 5 3 1 5 1 h hg q ",
    "6 q 6 q 2uu wyo w 37e 6 66 2 4g2 e 5rl 2e7 f2 15u 3t7 5 38g"])

/-- The code points of words: letters, marks, decimal digits, connectors and joiners. -/
def word : Table :=
  .ofText (String.join [
    "1c a 7 q 4 1 1 q 1b 1 a 1 4 1 5 n 1 v 1 cq 4 c e 5 7 1 1 1 h 39 1 2 2 4 1 1 6 1 1 3 1 1 1 ",
    "k 1 2b 1 3v 1 4t 1 12 2 1 6 15 8 19 1 1 1 2 1 2 1 1 8 r 4 4 t b 5 22 4 2u 1 8 2 a 1 j 2 1 ",
    "g 1n 2 2t e 1i 4 1 2 1 2 1a i s 4 b 5 o 1 6 9 22 1 3l 2 a 1 j 1 8 2 2 2 m 1 7 1 1 3 4 2 9 ",
    "2 2 2 4 8 1 4 2 1 5 2 c a 1 1 1 2 3 1 6 4 2 2 m 1 7 1 2 1 2 1 2 2 1 1 5 4 2 2 3 3 1 7 4 1 ",
    "1 7 g b 3 1 9 1 3 1 m 1 7 1 2 1 5 2 a 1 3 1 3 2 1 f 4 2 a 9 7 1 3 1 8 2 2 2 m 1 7 1 2 1 5 ",
    "2 9 2 2 2 3 7 3 4 2 1 5 2 a 1 1 g 2 1 6 3 3 1 4 3 2 1 1 1 2 3 2 3 3 3 c 4 5 3 3 1 4 2 1 6 ",
    "1 e a g d 1 3 1 n 1 g 2 9 1 3 1 4 7 2 1 3 2 1 2 4 2 a g 4 1 8 1 3 1 n 1 a 1 5 2 9 1 3 1 4 ",
    "7 2 6 2 1 4 2 a 1 3 c d 1 3 1 1f 1 3 1 5 5 4 7 5 2 a a 6 1 3 1 i 3 o 1 9 1 1 2 7 3 1 4 6 ",
    "1 1 1 8 6 a 2 2 d 1m 5 f 1 a 13 2 1 1 1 5 1 o 1 1 1 n 2 5 1 1 1 7 1 a 2 4 w 1 n 2 6 a b 1 ",
    "1 1 1 1 4 a 1 10 4 k 1 i 1 10 9 1 1l 22 6 26 2 12 1 1 5 1 2 17 1 99 1 4 2 7 1 1 1 4 2 15 ",
    "1 4 2 x 1 4 2 7 1 1 1 4 2 f 1 1l 1 4 2 1v 2 3 w g g 2e 2 6 3 h8 2 h 1 q 5 23 3 b 7 m 9 m ",
    "b k c d 1 3 1 2 c 2c 3 1 4 2 2 a x 3 1 b 6 2h 7 17 5 1y a v 1 c 4 c a 14 2 5 b 18 4 q 6 a ",
    "12 s 4 1r 1 t 2 b 6 a d 1 8 v 1d 25 3 a h 9 c 38 c 1k 8 a 3 1d 2 9 7 17 2 3 g 3 1 13 5 eu ",
    "2 6 2 12 2 6 2 8 1 1 1 1 1 1 1 v 2 1h 1 7 1 1 3 3 1 7 3 4 2 6 4 d 5 3 1 7 f 2 1d 2 j 1 s ",
    "1 d 1 g d 1f x h 1 4 1 2 a 1 1 3 5 6 1 1 1 1 1 1 4 1 b 2 4 5 5 4 1 h 15 ml 1g 1ee 6d 6 9 ",
    "c 12 1 1 5 1 2 1k 7 1 f o 9 7 1 7 1 7 1 7 1 7 1 7 1 7 1 7 1 w 1b 1 d1 3 p f 1 5 2 5 4 2e ",
    "2 2 2 3 1 2i 1 4 5 17 1 2m h w 1c g e8 534 1s h3h 1v 1a 2 7h 3 s k 1f 1 a 1 37 11 9 2 2v ",
    "2 1s 5 2 1 1 1 5 o 1i 4 1 j 1g c 1y a a 6 o 3 1 1 1d 2 10 c t 3 1t e b 6 v 1 1j 9 e 2 a 6 ",
    "n 3 21 o 3 2 g 2 5 a 6 2 6 2 6 9 7 1 7 1 17 1 e 6 3f 1 2 2 a 6 8mc c n 4 1d 6is a6 2 2y ",
    "12 7 c 5 5 c 1 d 1 5 1 1 1 2 1 2 1 30 x a3 i 1s 2 1i 14 c 4 g g g 3 2 o 3 w 5 1 3r j a 7 ",
    "q 4 1 1 q b 2h 3 6 2 6 2 6 2 3 z c 1 q 1 j 1 2 1 f 2 e y 3f 1x 1h 3s 1 3m t 3 1d f 1 v w ",
    "d u 5 17 5 u 2 10 4 8 1 5 16 4e 2 a 6 10 4 10 4 14 8 1g c b 1 f 1 7 1 2 1 b 1 f 1 7 1 2 ",
    "1v 8n 9 m a 8 o 6 1 16 1 9 1x 6 2 1 1 18 1 2 3 1 2 n a n 9 v 1t j 1 2 a m a q 1y 1k 6 2 ",
    "1s 4 1 2 5 8 1 3 1 t 2 3 4 1 w t 3 t z 8 1 u p 1i a m a j d i 32 21 1j 1f d 1f d 14 8 a ",
    "92 16 1 2 3 2 23 w a 1 8 x v m 16 l r n 9 1z v g 9 1o 7 1 d p 7 a 6 1h 1 a 4 4 8 10 2 1 9 ",
    "1x 4 4 1 d 1 1 z i 1 11 6 4 1q 7 1 1 1 4 1 f 1 a 7 1n 5 a 6 4 1 8 2 2 2 m 1 7 1 2 1 5 1 a ",
    "2 2 2 3 2 1 6 1 5 7 2 7 3 5 3v 23 5 a 4 4 u 1y 1 1 8 a 4m 1i 2 9 n 6 y 1t 3 1 b a 12 1l 7 ",
    "a 1i r 2 f 4 a 6 7 55 1n 2t 22 l 8 2 1 2 8 1 2 1 u 1 2 2 9 c a 1y 8 2 1a 2 8 1 2 r 1r 8 1 ",
    "8 22 3 1 i 21 7b 9 1 19 1 9 f a o u 2 m 1 e 21 7 1 2 1 18 3 1 1 2 1 9 8 a 6 6 1 2 1 11 1 ",
    "2 1 6 7 a 8m n 9 h 1 15 3 5 d a 2e 1 27 pm 2u 33 h 5g 218 2p f ts g m 33e g7 6nt ft 7 v 1 ",
    "a 6 27 1 a 6 u 2 5 b 1j 9 4 c a 9 l 5 j j4 1s 3k 23 4 1l 7 h 1s 2 1 2 b 2 e 4qg 8 ye 16 9 ",
    "6w7 4 1 7 1 2 1 83 f 1 t 3 2 1 e 4 8 b0 1s4 2z 5 d 3 9 7 a 3 2 3mp 1a 2 n f2 5 3 6 8 8 2 ",
    "7 u 4 44 3 cb 2d 1 1z 1 2 2 1 2 2 2 4 1 c 1 1 1 7 1 1t 1 4 2 8 1 7 1 s 1 4 1 5 1 1 3 7 1 ",
    "9g 2 p 1 p 1 v 1 p 1 v 1 p 1 v 1 p 1 v 1 p 1 8 2 1e e8 1j 4 1e 8 1 e 1 m 5 1 f uo v 6 6 ",
    "5x 7 1 h 2 7 1 2 1 5 5 1q x 1 34 19 3 e 2 a 4 1 8x v h 1m d2 16 km 7 1 4 1 2 1 f 1 5h b 7 ",
    "15 24 4 a x2 4 1 r 1 2 1 1 2 1 1 a 1 4 1 1 1 1 6 1 4 1 1 1 1 1 1 3 1 2 1 1 2 1 1 1 1 1 1 ",
    "1 1 1 1 2 1 1 2 4 1 7 1 4 1 4 1 1 1 a 1 h 5 3 1 5 1 h hg q 6 q 6 q 21y a sm wyo w 37e 6 ",
    "66 2 4g2 e 5rl 2e7 f2 15u 3t7 5 38g f9e8 6o"])

end Reshape.Letters

namespace Reshape.Script

/-- The long and short names of the scripts, in the order of their tags. -/
def names : List (String × String) :=
  [("Adlam", "Adlm"), ("Ahom", "Ahom"), ("Anatolian_Hieroglyphs", "Hluw"), ("Arabic", "Arab"),
    ("Armenian", "Armn"), ("Avestan", "Avst"), ("Balinese", "Bali"), ("Bamum", "Bamu"),
    ("Bassa_Vah", "Bass"), ("Batak", "Batk"), ("Bengali", "Beng"), ("Bhaiksuki", "Bhks"),
    ("Bopomofo", "Bopo"), ("Brahmi", "Brah"), ("Braille", "Brai"), ("Buginese", "Bugi"),
    ("Buhid", "Buhd"), ("Canadian_Aboriginal", "Cans"), ("Carian", "Cari"),
    ("Caucasian_Albanian", "Aghb"), ("Chakma", "Cakm"), ("Cham", "Cham"), ("Cherokee", "Cher"),
    ("Chorasmian", "Chrs"), ("Common", "Zyyy"), ("Coptic", "Copt"), ("Cuneiform", "Xsux"),
    ("Cypriot", "Cprt"), ("Cypro_Minoan", "Cpmn"), ("Cyrillic", "Cyrl"), ("Deseret", "Dsrt"),
    ("Devanagari", "Deva"), ("Dives_Akuru", "Diak"), ("Dogra", "Dogr"), ("Duployan", "Dupl"),
    ("Egyptian_Hieroglyphs", "Egyp"), ("Elbasan", "Elba"), ("Elymaic", "Elym"),
    ("Ethiopic", "Ethi"), ("Georgian", "Geor"), ("Glagolitic", "Glag"), ("Gothic", "Goth"),
    ("Grantha", "Gran"), ("Greek", "Grek"), ("Gujarati", "Gujr"), ("Gunjala_Gondi", "Gong"),
    ("Gurmukhi", "Guru"), ("Han", "Hani"), ("Hangul", "Hang"), ("Hanifi_Rohingya", "Rohg"),
    ("Hanunoo", "Hano"), ("Hatran", "Hatr"), ("Hebrew", "Hebr"), ("Hiragana", "Hira"),
    ("Imperial_Aramaic", "Armi"), ("Inherited", "Zinh"), ("Inscriptional_Pahlavi", "Phli"),
    ("Inscriptional_Parthian", "Prti"), ("Javanese", "Java"), ("Kaithi", "Kthi"),
    ("Kannada", "Knda"), ("Katakana", "Kana"), ("Kawi", "Kawi"), ("Kayah_Li", "Kali"),
    ("Kharoshthi", "Khar"), ("Khitan_Small_Script", "Kits"), ("Khmer", "Khmr"),
    ("Khojki", "Khoj"), ("Khudawadi", "Sind"), ("Lao", "Laoo"), ("Latin", "Latn"),
    ("Lepcha", "Lepc"), ("Limbu", "Limb"), ("Linear_A", "Lina"), ("Linear_B", "Linb"),
    ("Lisu", "Lisu"), ("Lycian", "Lyci"), ("Lydian", "Lydi"), ("Mahajani", "Mahj"),
    ("Makasar", "Maka"), ("Malayalam", "Mlym"), ("Mandaic", "Mand"), ("Manichaean", "Mani"),
    ("Marchen", "Marc"), ("Masaram_Gondi", "Gonm"), ("Medefaidrin", "Medf"),
    ("Meetei_Mayek", "Mtei"), ("Mende_Kikakui", "Mend"), ("Meroitic_Cursive", "Merc"),
    ("Meroitic_Hieroglyphs", "Mero"), ("Miao", "Plrd"), ("Modi", "Modi"),
    ("Mongolian", "Mong"), ("Mro", "Mroo"), ("Multani", "Mult"), ("Myanmar", "Mymr"),
    ("Nabataean", "Nbat"), ("Nag_Mundari", "Nagm"), ("Nandinagari", "Nand"),
    ("New_Tai_Lue", "Talu"), ("Newa", "Newa"), ("Nko", "Nkoo"), ("Nushu", "Nshu"),
    ("Nyiakeng_Puachue_Hmong", "Hmnp"), ("Ogham", "Ogam"), ("Ol_Chiki", "Olck"),
    ("Old_Hungarian", "Hung"), ("Old_Italic", "Ital"), ("Old_North_Arabian", "Narb"),
    ("Old_Permic", "Perm"), ("Old_Persian", "Xpeo"), ("Old_Sogdian", "Sogo"),
    ("Old_South_Arabian", "Sarb"), ("Old_Turkic", "Orkh"), ("Old_Uyghur", "Ougr"),
    ("Oriya", "Orya"), ("Osage", "Osge"), ("Osmanya", "Osma"), ("Pahawh_Hmong", "Hmng"),
    ("Palmyrene", "Palm"), ("Pau_Cin_Hau", "Pauc"), ("Phags_Pa", "Phag"),
    ("Phoenician", "Phnx"), ("Psalter_Pahlavi", "Phlp"), ("Rejang", "Rjng"), ("Runic", "Runr"),
    ("Samaritan", "Samr"), ("Saurashtra", "Saur"), ("Sharada", "Shrd"), ("Shavian", "Shaw"),
    ("Siddham", "Sidd"), ("SignWriting", "Sgnw"), ("Sinhala", "Sinh"), ("Sogdian", "Sogd"),
    ("Sora_Sompeng", "Sora"), ("Soyombo", "Soyo"), ("Sundanese", "Sund"),
    ("Syloti_Nagri", "Sylo"), ("Syriac", "Syrc"), ("Tagalog", "Tglg"), ("Tagbanwa", "Tagb"),
    ("Tai_Le", "Tale"), ("Tai_Tham", "Lana"), ("Tai_Viet", "Tavt"), ("Takri", "Takr"),
    ("Tamil", "Taml"), ("Tangsa", "Tnsa"), ("Tangut", "Tang"), ("Telugu", "Telu"),
    ("Thaana", "Thaa"), ("Thai", "Thai"), ("Tibetan", "Tibt"), ("Tifinagh", "Tfng"),
    ("Tirhuta", "Tirh"), ("Toto", "Toto"), ("Ugaritic", "Ugar"), ("Vai", "Vaii"),
    ("Vithkuqi", "Vith"), ("Wancho", "Wcho"), ("Warang_Citi", "Wara"), ("Yezidi", "Yezi"),
    ("Yi", "Yiii"), ("Zanabazar_Square", "Zanb")]

/-- The script of each code point, as its place among the names. -/
def table : Table :=
  .ofTaggedText (String.join [
    "0 1t o 0 q 1y 0 6 o 0 q 1y 0 1b o 0 1 1y 0 f o 0 1 1y 0 5 o 0 n 1y 0 1 o 0 v 1y 0 1 o 0 ",
    "ch 1y 0 13 o 0 5 1y 0 5 o 0 2 c 0 k o 0 34 1j 0 4 17 0 1 o 0 3 17 2 4 17 0 1 o 0 1 17 4 1 ",
    "17 0 1 o 0 1 17 0 1 o 0 3 17 1 1 17 1 k 17 1 1r 17 0 e p 0 g 17 0 3p t 0 2 1j 0 4p t 1 12 ",
    "4 2 1e 4 2 3 4 1 1j 1g 8 r 1g 4 6 1g b 5 3 0 1 o 0 6 3 0 1 o 0 e 3 0 1 o 0 3 3 0 1 o 0 w ",
    "3 0 1 o 0 a 3 0 b 1j 0 q 3 0 1 1j 0 30 3 0 1 o 0 y 3 0 e 3u 1 1o 3u 2 3 3u 0 1c 3 0 1e 45 ",
    "e 1n 2t 2 3 2t 0 1a 3i 2 f 3i 1 s 29 2 1 29 1 b 3u 5 v 3 1 2 3 6 22 3 0 1 o 0 t 3 0 29 v ",
    "0 4 1j 0 f v 0 2 o 0 q v 0 4 a 1 8 a 2 2 a 2 m a 1 7 a 1 1 a 3 4 a 2 9 a 2 2 a 2 4 a 8 1 ",
    "a 4 2 a 1 5 a 2 p a 2 3 1a 1 6 1a 4 2 1a 2 m 1a 1 7 1a 1 2 1a 1 2 1a 1 2 1a 2 1 1a 1 5 1a ",
    "4 2 1a 2 3 1a 3 1 1a 7 4 1a 1 1 1a 7 h 1a a 3 18 1 9 18 1 3 18 1 m 18 1 7 18 1 2 18 1 5 ",
    "18 2 a 18 1 3 18 1 3 18 2 1 18 f 4 18 2 c 18 7 7 18 1 3 37 1 8 37 2 2 37 2 m 37 1 7 37 1 ",
    "2 37 1 5 37 2 9 37 2 2 37 2 3 37 7 3 37 4 2 37 1 5 37 2 i 37 a 2 41 1 6 41 3 3 41 1 4 41 ",
    "3 2 41 1 1 41 1 2 41 3 2 41 3 3 41 3 c 41 4 5 41 3 3 41 1 4 41 2 1 41 6 1 41 e l 41 5 d ",
    "44 1 3 44 1 n 44 1 g 44 2 9 44 1 3 44 1 4 44 7 2 44 1 3 44 2 1 44 2 4 44 2 a 44 7 9 44 0 ",
    "d 1o 1 3 1o 1 n 1o 1 a 1o 1 5 1o 2 9 1o 1 3 1o 1 4 1o 7 2 1o 6 2 1o 1 4 1o 2 a 1o 1 3 1o ",
    "c d 28 1 3 28 1 1f 28 1 3 28 1 6 28 4 g 28 2 q 28 1 3 3o 1 i 3o 3 o 3o 1 9 3o 1 1 3o 2 7 ",
    "3o 3 1 3o 4 6 3o 1 1 3o 1 8 3o 6 a 3o 2 3 3o c 1m 46 4 1 o 0 s 46 11 2 1x 1 1 1x 1 5 1x 1 ",
    "o 1x 1 1 1x 1 n 1x 2 5 1x 1 1 1x 1 7 1x 1 a 1x 2 4 1x w 20 47 1 10 47 4 13 47 1 10 47 1 f ",
    "47 1 7 47 0 4 o 0 2 47 11 4g 2n 0 12 13 1 1 13 5 1 13 2 17 13 0 1 o 0 4 13 0 74 1c 0 21 ",
    "12 1 4 12 2 7 12 1 1 12 1 4 12 2 15 12 1 4 12 2 x 12 1 4 12 2 7 12 1 1 12 1 4 12 2 f 12 1 ",
    "1l 12 1 4 12 2 1v 12 2 w 12 3 q 12 6 2e m 2 6 m 2 hs h 0 t 2w 3 23 3h 0 3 o 0 b 3h 7 m 3v ",
    "9 1 3v 0 l 1e 0 2 o 9 k g c d 3w 1 3 3w 1 2 3w c 2m 1u 2 a 1u 6 a 1u 6 2 2k 0 2 o 0 1 2k ",
    "0 1 o 0 k 2k 6 2h 2k 7 17 2k 5 1y h a v 20 1 c 20 4 c 20 4 1 20 3 c 20 0 u 3x 2 5 3x b 18 ",
    "2r 4 q 2r 6 b 2r 3 2 2r 0 w 1u 0 s f 2 2 f 0 1r 3y 1 t 3y 2 b 3y 6 a 3y 6 e 3y 2 v 1j 1d ",
    "25 6 3 1b 6 1 1s 3s 0 1g 9 8 4 9 0 1k 1z 3 f 1z 3 3 1z 0 1c 2x 0 9 t 7 17 13 2 3 13 0 8 ",
    "3s 8 3 1j 0 1 o 0 d 1j 0 1 o 0 7 1j 0 4 o 0 1 1j 0 6 o 0 1 1j 0 3 o 0 2 1j 0 1 o 5 12 1y ",
    "0 5 17 0 1 t 0 1d 1y 0 5 17 0 4 1y 0 5 17 0 d 1y 0 1 t 0 1y 1y 0 1 17 0 1s 1j 0 74 1y 0 m ",
    "17 2 6 17 2 12 17 2 6 17 2 8 17 1 1 17 1 1 17 1 1 17 1 v 17 2 1h 17 1 f 17 1 e 17 2 6 17 ",
    "1 j 17 2 3 17 1 9 17 1 c o 0 2 1j 0 2f o 1 b o 0 1 1y 2 b o 0 1 1y 0 f o 1 d 1y 3 x o f x ",
    "1j f 12 o 0 1 17 0 3 o 0 2 1y 0 6 o 0 1 1y 0 r o 0 1 1y 0 h o 0 15 1y 0 3 o 4 if o p b o ",
    "l ps o 0 74 e 0 hg o 2 w o 1 2x o 0 2o 14 0 w 1y 0 38 p 5 7 p 0 12 13 1 1 13 5 1 13 2 1k ",
    "48 7 2 48 e 1 48 0 n 12 9 7 12 1 7 12 1 7 12 1 7 12 1 7 12 1 7 12 1 7 12 1 7 12 1 w t 0 ",
    "2m o y q 1b 1 2h 1b c 5y 1b q c o 4 5 o 0 1 1b 0 1 o 0 1 1b 0 p o 0 9 1b 0 4 1j 0 2 1c 0 ",
    "8 o 0 4 1b 0 4 o 1 2e 1h 2 2 1j 0 2 o 0 3 1h 0 1 o 0 2i 1p 0 2 o 0 3 1p 5 17 c 1 2m 1c 1 ",
    "g o 0 w c 0 10 o c g 1p 0 v 1c 1 1s o 0 v 1c 0 29 o 0 1b 1p 0 1 o 0 2g 1p 0 4o o 0 534 1b ",
    "0 1s o 0 g74 1b 0 wd 4h 3 1j 4h 9 1c 23 0 8c 4c k 2o t 0 2g 7 8 y o 0 2u 1y 0 3 o 0 1s 1y ",
    "5 2 1y 1 1 1y 1 5 1y o e 1y 0 19 3t 3 a o 6 1k 3d 8 1y 3j 8 c 3j 6 w v 0 1a 1r 0 1 o 0 1 ",
    "1r 0 10 3g b 1 3g 0 t 1c 3 26 1m 1 1 o 0 a 1m 4 2 1m 0 v 2n 1 1j l 9 e l 2 a l 2 4 l 0 w ",
    "2n 0 1v 3z o 5 3z 0 n 2e a 6 12 2 6 12 2 6 12 9 7 12 1 7 12 1 17 1y 0 1 o 0 9 1y 0 1 17 0 ",
    "4 1y 0 2 o 4 28 m 0 1a 2e 2 a 2e 6 8mc 1c c n 1c 4 1d 1c 6is a6 1b 2 2y 1b 12 7 1y c 5 4 ",
    "5 q 1g 1 5 1g 1 1 1g 1 2 1g 1 2 1g 1 a 1g 0 37 3 g a3 3 0 2 o 0 28 3 2 1i 3 7 1 3 w g 3 0 ",
    "g 1j 0 a o 6 e 1j 0 2 t 0 z o 1 j o 1 4 o 4 5 3 1 3r 3 2 1 o 1 w o 0 q 1y 0 6 o 0 q 1y 0 ",
    "b o 0 a 1p 0 1 o 0 19 1p 0 2 o 0 v 1c 3 6 1c 2 6 1c 2 6 1c 2 3 1c 3 7 o 1 7 o a 5 o 2 c ",
    "22 1 q 22 1 j 22 1 2 22 1 f 22 2 e 22 y 3f 22 5 3 o 4 19 o 3 9 o 0 27 17 1 d o 3 1 17 1b ",
    "19 o 0 1 1j 3m t 24 3 1d i f 1 1j 0 r o 4 10 2z 9 3 2z 0 r 15 5 17 31 5 u 4b 1 1 4b 0 10 ",
    "32 4 e 32 16 28 u 0 1c 3l 0 u 39 2 a 39 6 10 38 4 10 38 4 14 10 8 1g j b 1 j 0 b 4d 1 f ",
    "4d 1 7 4d 1 2 4d 1 b 4d 1 f 4d 1 7 4d 1 2 4d 1v 8n 21 9 m 21 a 8 21 o 6 1y 1 16 1y 1 9 1y ",
    "1x 6 r 2 1 r 1 18 r 1 2 r 3 1 r 2 1 r 0 m 1i 1 9 1i 0 w 3b 0 v 2o 8 9 2o 1c j 1f 1 2 1f 5 ",
    "5 1f 0 s 3e 3 1 3e 0 q 25 5 1 25 1s w 2h 0 o 2g 4 k 2g 2 1a 2g 0 4 1s 1 2 1s 5 8 1s 1 3 ",
    "1s 1 t 1s 2 3 1s 4 a 1s 7 9 1s 7 w 34 0 w 30 w 13 2a 4 c 2a 9 1i 5 3 7 5 0 m 1l 2 8 1l 0 ",
    "j 1k 5 8 1k 0 i 3f 7 4 3f c 7 3f 28 21 35 1j 1f 2y d 1f 2y 7 6 2y 0 14 1d 8 a 1d 86 v 3 1 ",
    "16 4g 1 3 4g 2 2 4g 23 3 3 0 14 33 8 16 3p m q 36 12 s n k n 11 9 26 d 4 10 d 9 1 d 0 1v ",
    "1n a 1 1n 2 p 3q 7 a 3q 6 1h k 1 i k 8 13 26 9 2o 3k 1 k 3o b i 1v 1 1b 1v 1q 7 2m 1 1 2m ",
    "1 4 2m 1 f 2m 1 b 2m 6 1n 1w 5 a 1w 6 4 16 1 8 16 2 2 16 2 m 16 1 7 16 1 2 16 1 5 16 1 1 ",
    "1j 0 9 16 2 2 16 2 3 16 2 1 16 6 1 16 5 7 16 2 7 16 3 5 16 3v 2k 2s 1 5 2s u 20 49 8 a 49 ",
    "4m 1i 3m 2 12 3m y 1x 2j b a 2j 6 d 2k j 1m 40 6 a 40 1i r 1 2 f 1 4 n 1 55 1o x 2s 2b 4f ",
    "c 1 4f 0 7 w 2 1 w 2 8 w 1 2 w 1 u w 1 2 w 2 c w 9 a w 1y 8 2q 2 1a 2q 2 b 2q r 20 4i 8 ",
    "2b 3r d g h 0 1l 3c 7 a v 6u 9 b 1 19 b 1 e b a t b 3 w 2b 2 m 2b 1 e 2b 21 7 2c 1 2 2c 1 ",
    "18 2c 3 1 2c 1 2 2c 1 9 2c 8 a 2c 6 6 19 1 2 19 1 11 19 1 2 19 1 6 19 7 a 19 8m p 27 7 h ",
    "1q 1 15 1q 3 s 1q 2e 1 23 f 1e 41 d 1 41 0 pm q 2u 33 q 1 5 q b 5g q 218 2r s d uu z 33e ",
    "g7 2 6nt ft 7 7 v 2l 1 a 2l 4 2 2l 0 27 42 1 a 42 6 u 8 2 6 8 a 1y 3a a a 3a 1 7 3a 1 l ",
    "3a 5 j 3a j4 2j 2d 2t 23 2i 4 1l 2i 7 h 2i 1s 1 43 0 1 2u 0 2 1b 0 1 1t b 2 1b e 4qg 43 8 ",
    "lc 43 0 d2 1t 16 9 43 6w7 4 1p 1 7 1p 1 2 1p 1 1 1p 0 7z 1h 0 3 1p f 1 1h t 3 1h 2 1 1p e ",
    "4 1p 8 b0 2u 1s4 2z y 5 d y 3 9 y 7 a y 2 4 y 0 4 o 3mk 1a 1j 2 n 1j 9 38 o 1o 6u o a 13 ",
    "o 2 1q o 0 3 1j 0 h o 0 8 1j 0 2 o 0 7 1j 0 u o 0 4 1j 0 1p o l 1y 17 3e k o c k o c 2f o ",
    "9 p o 3r 2d o 1 1z o 1 2 o 2 1 o 2 2 o 2 4 o 1 c o 1 1 o 1 7 o 1 1t o 1 4 o 2 8 o 1 7 o 1 ",
    "s o 1 4 o 1 5 o 1 1 o 3 7 o 1 9g o 2 84 o 2 1e o 0 i4 3n f 5 3n 1 f 3n uo v 1y 6 6 1y 5x ",
    "7 14 1 h 14 2 7 14 1 2 14 1 5 14 5 1q t x 1 t 34 19 2v 3 e 2v 2 a 2v 4 2 2v 8w v 4a h 1m ",
    "4e 5 1 4e cw 16 2p km 7 12 1 4 12 1 2 12 1 f 12 1 5h 2f 2 g 2f 15 24 0 4 a 0 4 2 0 lt 1w ",
    "o 24 1p o 5e 4 3 1 r 3 1 2 3 1 1 3 2 1 3 1 a 3 1 4 3 1 1 3 1 1 3 6 1 3 4 1 3 1 1 3 1 1 3 ",
    "1 3 3 1 2 3 1 1 3 2 1 3 1 1 3 1 1 3 1 1 3 1 1 3 1 2 3 1 1 3 2 4 3 1 7 3 1 4 3 1 4 3 1 1 3 ",
    "1 a 3 1 h 3 5 3 3 1 5 3 1 h 3 1g 2 3 7i 18 o 4 2s o c f o 2 f o 1 f o 1 11 o a 4u o 1k q ",
    "o 0 1 1h 0 2 o d 18 o 4 9 o 7 2 o e 6 o 4a rc o 4 h o 3 d o 3 3b o 4 2n o 6 c o 4 1 o f c ",
    "o 4 1k o 8 a o 6 14 o 8 u o 2 2 o 26 9g o c e o 2 d o 3 9 o 7 1a o 1 7 o 8 e o 4 9 o 7 9 ",
    "o 7 43 o 1 1j o 11 a o sm wyo 1b w 37e 1b 6 66 1b 2 4g2 1b e 5rl 1b 2e7 f2 1b 15u 3t7 1b ",
    "5 38g 1b f975 1 o u 2o o 3k 6o 1j"])

end Reshape.Script
