import Reshape.Text.Table

/-! How code points take part in grapheme clusters. -/

namespace Reshape.Clusters

/-- The break class of code points: 0 control, 1 extend, 2 regional indicator, 3 prepend, 4 spacing
mark, 5 to 7 leading, vowel and trailing jamo. -/
def breaks : Table :=
  .ofTaggedText (String.join [
    "0 a 0 1 2 0 1 i 0 2n x 0 d 1 0 gi 34 1 7n 7 1 7b 19 1 1 1 1 1 2 1 1 2 1 1 1 1 1k 6 3 a b ",
    "1 1 1 0 1a l 1 g 1 1 2t 7 1 0 1 3 1 6 1 2 2 1 1 4 1 x 1 3 1 1 1 u r 1 2j b 1 1m 9 1 9 1 1 ",
    "o 4 1 1 9 1 1 3 1 1 5 1 17 3 1 1g 2 3 6 8 1 16 o 1 0 1 3 0 w 1 0 1 4 1i 1 1 0 1 4 0 1 1 1 ",
    "3 4 0 8 1 0 4 4 0 1 1 0 2 4 1 7 1 a 2 1 t 1 1 0 2 4 1k 1 1 1 1 1 0 2 4 0 4 1 2 2 4 2 2 4 ",
    "0 1 1 9 1 1 a 2 1 q 1 1 2 2 1 0 1 4 1k 1 1 1 3 4 0 2 1 4 2 1 2 3 1 3 1 1 u 2 1 3 1 1 b 2 ",
    "1 0 1 4 1k 1 1 1 3 4 0 5 1 1 2 1 0 1 4 1 2 4 0 1 1 k 2 1 m 6 1 1 1 1 0 2 4 1k 1 1 1 2 1 0 ",
    "1 4 0 4 1 2 2 4 2 2 4 0 1 1 7 3 1 a 2 1 u 1 1 1n 1 1 0 1 4 0 1 1 0 2 4 3 3 4 1 3 4 0 1 1 ",
    "9 1 1 14 1 1 0 3 4 0 1 1 1j 1 1 1 3 1 0 4 4 1 3 1 1 4 1 7 2 1 b 2 1 t 1 1 0 2 4 1k 1 1 1 ",
    "1 4 0 1 1 0 2 4 0 1 1 0 2 4 1 1 1 0 2 4 1 2 4 0 2 1 7 2 1 b 2 1 f 1 4 c 2 1 0 2 4 1j 2 1 ",
    "1 1 1 0 2 4 0 4 1 1 3 4 1 3 4 0 1 1 0 1 3 8 1 1 a 2 1 t 1 1 0 2 4 1y 1 1 4 1 1 0 2 4 0 3 ",
    "1 1 1 1 1 7 4 0 1 1 i 2 4 1p 1 1 1 1 4 0 7 1 c 8 1 2q 1 1 1 1 4 0 9 1 b 7 1 21 2 1 r 1 1 ",
    "1 1 1 1 1 1 4 2 4 1d e 1 0 1 4 0 5 1 1 2 1 5 b 1 1 10 1 9 1 1 2u 4 1 0 1 4 0 6 1 1 2 1 0 ",
    "2 4 0 2 1 n 2 4 0 2 1 4 3 1 g 4 1 d 1 1 1 1 4 0 2 1 6 1 1 f 1 1 2q 2o 5 0 20 6 0 2g 7 9p ",
    "3 1 qa 3 1 0 1 4 s 2 1 0 1 4 t 2 1 u 2 1 1s 2 1 0 1 4 0 7 1 0 8 4 0 1 1 0 2 4 0 b 1 9 1 1 ",
    "19 3 1 0 1 0 0 1 1 39 2 1 y 1 1 3a 3 1 0 4 4 0 2 1 0 3 4 4 2 4 0 1 1 0 6 4 0 3 1 63 2 1 0 ",
    "2 4 0 1 1 1l 1 4 0 1 1 0 1 4 0 7 1 1 1 1 1 1 1 2 8 1 0 6 4 0 a 1 2 1 1 1c v 1 1d 4 1 0 1 ",
    "4 1b 7 1 0 1 4 0 1 1 0 5 4 0 1 1 0 2 4 12 9 1 c 2 1 0 1 4 u 1 4 0 4 1 0 2 4 0 2 1 0 1 4 0 ",
    "3 1 1k 1 1 0 1 4 0 2 1 0 3 4 0 1 1 0 1 4 0 3 1 0 2 4 1c 8 4 0 8 1 0 2 4 0 2 1 48 3 1 1 d ",
    "1 0 1 4 0 7 1 4 1 1 6 1 1 2 1 4 0 2 1 5i 1s 1 ej 1 0 0 1 1 1 2 0 o 7 0 1d g 0 2o x 1 2da ",
    "3 1 3x 1 1 2o w 1 fe 6 1 2x 2 1 n9w 4 1 1 a 1 w 2 1 28 2 1 7k 1 1 3 1 1 4 1 1 n 2 4 0 2 1 ",
    "0 1 4 4 1 1 2b 2 4 1e g 4 0 2 1 q i 1 d 1 1 12 8 1 p b 1 0 2 4 c t 5 3 3 1 0 1 4 1b 1 1 0 ",
    "2 4 0 4 1 0 2 4 0 2 1 0 3 4 10 1 1 1v 6 1 0 2 4 0 2 1 0 2 4 0 2 1 c 1 1 8 1 1 0 1 4 1a 1 ",
    "1 1f 1 1 1 3 1 2 2 1 5 2 1 1 1 1 15 1 4 0 2 1 0 2 4 5 1 4 0 1 1 6k 2 4 0 1 1 0 2 4 0 1 1 ",
    "0 2 4 1 1 4 0 1 1 8n6 n 6 4 1d 7 6xu 1 1 kh g 1 g g 1 5r 1 0 4e 2 1 28 c 0 e9 1 1 6a 1 1 ",
    "45 5 1 1ae 3 1 1 2 1 5 4 1 14 3 1 4 1 1 4l 2 1 fx 4 1 ar 2 1 28 3 1 1y b 1 1d 4 1 3e 1 4 ",
    "0 1 1 0 1 4 1h f 1 15 1 1 2 2 1 a 3 1 0 1 4 19 3 4 0 4 1 0 2 4 0 2 1 2 1 3 4 1 1 a 1 3 1e ",
    "3 1 10 5 1 0 1 4 0 8 1 g 2 4 18 1 1 c 2 1 0 1 4 1c 3 4 0 9 1 0 2 4 1 2 3 5 4 1 1 1 4 0 1 ",
    "1 2k 3 4 0 3 1 0 2 4 0 1 1 0 1 4 0 2 1 6 1 1 2 1 1 4d 1 1 0 3 4 0 8 1 l 2 1 0 2 4 1j 2 1 ",
    "1 1 1 0 1 4 0 1 1 0 4 4 2 2 4 2 3 4 9 1 1 a 2 4 2 7 1 3 5 1 5c 3 4 0 8 1 0 2 4 0 3 1 0 1 ",
    "4 0 1 1 n 1 1 29 1 1 0 2 4 0 6 1 0 1 4 0 1 1 0 2 4 0 1 1 0 1 4 0 2 1 0 1 4 0 2 1 6j 1 1 0 ",
    "2 4 0 4 1 2 4 4 0 2 1 0 1 4 0 2 1 r 2 1 2a 3 4 0 8 1 0 2 4 0 1 1 0 1 4 0 2 1 2y 1 1 0 1 4 ",
    "0 1 1 0 2 4 0 6 1 0 1 4 0 1 1 2t 3 1 2 4 1 0 1 4 0 5 1 74 3 4 0 9 1 0 1 4 0 2 1 6t 1 1 0 ",
    "5 4 1 2 4 2 2 1 0 1 4 0 1 1 0 1 3 0 1 4 0 1 3 0 1 4 0 1 1 3x 3 4 0 4 1 2 2 1 0 4 4 0 1 1 ",
    "3 1 4 s a 1 14 6 1 0 1 4 0 1 3 0 4 1 8 1 1 9 6 1 0 2 4 0 3 1 14 6 3 0 d 1 0 1 4 0 2 1 b9 ",
    "1 4 0 7 1 1 6 1 0 1 4 0 1 1 2a m 1 1 1 4 0 7 1 0 1 4 0 2 1 0 1 4 0 2 1 3e 6 1 3 1 1 1 2 1 ",
    "1 7 1 0 1 3 0 1 1 1u 5 4 1 2 1 1 2 4 0 1 1 0 1 4 0 1 1 9n 2 1 0 2 4 9 2 1 0 1 3 0 1 4 1c ",
    "2 4 0 5 1 3 2 4 0 1 1 0 1 4 0 1 1 44t g 0 0 1 1 6 f 1 asa 5 1 1n 7 1 t4 1 1 1 1j 4 7 4 1 ",
    "29 1 1 b 2 4 f57 2 1 1 4 0 3mk 1a 1 2 n 1 f2 1 1 0 1 4 0 3 1 3 1 4 0 5 1 0 8 0 0 8 1 2 7 ",
    "1 u 4 1 44 3 1 1iz 1j 1 4 1e 1 8 1 1 e 1 1 m 5 1 1 f 1 11s 7 1 1 h 1 2 7 1 1 2 1 1 5 1 2s ",
    "1 1 4g 7 1 af 1 1 1p 4 1 e4 4 1 rk 7 1 31 7 1 1p7 q 2 e3 5 1 gx6o w 0 0 2o 1 0 3k 0 0 6o ",
    "1 0 2s0 0"])

/-- The extended pictographs. -/
def pictographs : Table :=
  .ofText (String.join [
    "4p 1 4 1 68d 1 c 1 60 1 m 1 2i 6 f 2 a7 2 c 1 2n 1 1y 1 p b 4 3 5j 1 6f 2 a 1 9 1 1m 4 1 ",
    "6 1 c 1 36 a 3a 2 b 1 1 1 1 6 1 3 1 6 1 a 2 f 1 2 1 4 1 1 1 4 3 1 1 b 5 19 3 9 1 e 1 e 1 ",
    "ac 2 cv 3 j 2 1f 1 4 1 yi 1 c 1 gp 1 1 1 2fza 74 d 3 v 1 1o 6 c 2 e 1 2 a i 1l r f a 1 k ",
    "1 2 9 1 4 9 c2 5 8u 8 7e 1c 3k 38 c 2d 17 c 4 1k 8 a 6 14 8 u 2a c 1b 1 a 1 c9 74 se"])

/-- The code points that extend the cluster before them. -/
def extending : Table :=
  .ofText (String.join [
    "lc 34 7n 7 7b 19 1 1 1 2 1 2 1 1 20 b 1c l g 1 2t 7 2 6 2 2 1 4 z 1 u r 2j b 1m 9 9 1 o 4 ",
    "1 9 1 3 1 5 17 3 1o 8 16 o 1 w 1j 1 1 1 4 8 4 1 3 7 a 2 t 1 1m 1 1 1 2 4 8 1 9 1 a 2 q 1 ",
    "2 2 1l 1 4 2 4 2 2 3 3 1 u 2 3 1 b 2 1l 1 4 5 1 2 4 1 k 2 m 6 1 1 1m 1 1 2 1 4 8 1 7 3 a ",
    "2 u 1 1n 1 1 1 c 1 9 1 14 1 3 1 1j 1 1 3 5 3 1 4 7 2 b 2 t 1 1m 1 2 1 2 1 3 1 5 2 7 2 b 2 ",
    "s 2 1l 2 1 1 2 4 8 1 9 1 a 2 t 1 20 1 4 1 2 3 1 1 8 1 29 1 2 7 c 8 2q 1 2 9 b 7 21 2 r 1 ",
    "1 1 1 1 1j e 1 5 1 2 5 b 1 10 9 1 2u 4 1 6 1 2 2 2 p 2 4 3 g 4 d 1 2 2 6 1 f 1 jj 3 qa 3 ",
    "t 2 u 2 u 2 1s 2 1 7 8 1 2 b 9 1 19 3 1 1 39 2 y 1 3a 3 4 2 9 1 6 3 63 2 2 1 1m 1 1 7 1 1 ",
    "1 1 2 8 6 a 2 1 1c v 1d 4 1c 7 1 1 5 1 14 9 c 2 w 4 2 2 1 3 1k 1 1 2 3 1 1 3 1m 8 2 2 48 ",
    "3 1 d 1 7 4 1 6 1 3 2 5i 1s ek 1 5f x 2da 3 3x 1 2o w fe 6 2x 2 n9w 4 1 a w 2 28 2 7k 1 3 ",
    "1 4 1 p 2 5 1 47 2 q i d 1 12 8 p b 1a 3 1c 1 2 4 2 2 13 1 1v 6 2 2 2 2 c 1 8 1 1b 1 1f 1 ",
    "1 3 2 2 5 2 1 1 16 2 8 1 6m 1 2 1 4 1 fn4 1 kh g g g a6 2 gt 1 6a 1 45 5 1ae 3 1 2 5 4 14 ",
    "3 4 1 4l 2 fx 4 ar 2 28 3 1y b 1d 4 3f 1 1i f 15 1 2 2 a 3 1d 4 2 2 7 1 1p 3 10 5 1 8 1q ",
    "1 c 2 1g 9 a 4 2 1 2n 3 2 1 1 2 6 1 2 1 4d 1 3 8 l 2 1l 2 1 1 1 1 m 1 e 7 3 5 5f 8 2 3 1 ",
    "1 n 1 29 1 2 6 1 1 2 1 1 2 1 2 6j 1 2 4 6 2 1 2 r 2 2d 8 2 1 1 2 2y 1 1 1 2 6 1 1 2t 3 2 ",
    "4 1 5 77 9 1 2 6t 1 a 2 1 1 4 1 40 4 2 2 4 1 w a 14 6 2 4 8 1 9 6 2 3 1a d 1 2 ba 7 1 6 1 ",
    "1 2a m 2 7 1 2 1 2 3e 6 3 1 1 2 1 7 1 1 20 2 3 1 1 1 9n 2 b 2 1g 5 5 1 1 1 459 1 6 f asa ",
    "5 1n 7 t4 1 1r 4 29 1 f5k 2 3mp 1a 2 n f2 1 1 3 4 5 8 8 2 7 u 4 44 3 1iz 1j 4 1e 8 1 e 1 ",
    "m 5 1 f 11s 7 1 h 2 7 1 2 1 5 2s 1 4g 7 af 1 1p 4 e4 4 rk 7 31 7 gzbp 2o 3k 6o"])

/-- The consonants of scripts that write conjuncts. -/
def conjunctConsonants : Table :=
  .ofText (String.join [
    "1sl 11 u 8 o 8 l k 1 7 1 1 3 4 y 2 1 1 g 2 4j k 1 7 1 2 1 5 1r 1 r k 1 7 1 2 1 5 y 2 1 1 ",
    "h 1 4j k 1 g u 3 56 12"])

/-- The marks that link consonants into a conjunct. -/
def conjunctLinkers : Table :=
  .ofText (String.join [
    "1u5 1 3j 1 73 1 3j 1 73 1 73 1"])

/-- The code points with a combining class. -/
def combining : Table :=
  .ofText (String.join [
    "lc 27 1 w 7n 5 7d 19 1 1 1 2 1 2 1 1 20 b 1c l g 1 2t 7 2 6 2 2 1 4 z 1 u r 4g 9 9 1 o 4 ",
    "1 9 1 3 1 5 17 3 1o 8 16 o 1 t 1o 1 g 1 3 4 2v 1 g 1 1c 1 1p 1 g 1 32 1 g 1 32 1 g 1 3j 1 ",
    "32 1 g 1 7 2 2t 1 g 1 31 2 g 1 3g 1 31 3 d 4 30 3 d 4 24 2 r 1 1 1 1 1 1j 2 1 1 5 4 2 1 1 ",
    "3 1 2 1q 1 34 1 1 2 2a 1 jz 3 qc 2 u 1 4d 1 a 1 5n 1 3z 3 63 2 1z 1 k 8 2 1 1c e 1 g 2t 1 ",
    "f 1 12 9 1i 2 1m 1 b 2 1v 1 48 3 1 d 1 7 4 1 6 1 3 2 5i 1s k0 d 4 1 3 c 2da 3 3x 1 2o w ",
    "fe 6 2x 2 n9w 1 4 a w 2 28 2 7o 1 11 1 47 1 r i 1l 3 11 1 2n 1 c 1 6n 1 1 3 2 2 5 2 1 1 ",
    "1g 1 6u 1 fn4 1 ld g r1 1 6a 1 45 5 1aq 1 1 1 14 3 4 1 4l 2 fx 4 ar 2 28 3 1y b 1d 4 5c 1 ",
    "15 1 e 1 1l 2 1x 3 1c 2 1q 1 24 1 9 1 2y 2 4y 2 28 2 g 1 o 7 3 5 5p 1 3 1 n 1 2r 2 6z 2 ",
    "3i 1 3a 2 37 1 7h 2 76 2 4 1 4c 1 2b 1 i 1 29 1 bp 1 76 1 1 2 29 1 bt 2 ey5 5 1n 7 xl 2 ",
    "f58 1 43q 5 3 6 8 8 2 7 u 4 44 3 2pn 7 1 h 2 7 1 2 1 5 2s 1 4g 7 af 1 1p 4 e4 4 rk 7 31 7"])

end Reshape.Clusters
