import Reshape.Text.Table

/-! The general category of each assigned code point. -/

namespace Reshape.Category

/-- The short names of the categories, in the order of their tags. -/
def names : List String :=
  ["Lu", "Ll", "Lt", "Lm", "Lo", "Mn", "Mc", "Me", "Nd", "Nl",
    "No", "Pc", "Pd", "Ps", "Pe", "Pi", "Pf", "Po", "Sm", "Sc",
    "Sk", "So", "Zs", "Zl", "Zp", "Cc", "Cf", "Cs", "Co"]

/-- The category of each assigned code point, as its place among the names. -/
def table : Table :=
  .ofTaggedText (String.join [
    "0 w p 0 1 m 0 3 h 0 1 j 0 3 h 0 1 d 0 1 e 0 1 h 0 1 i 0 1 h 0 1 c 0 2 h 0 a 8 0 2 h 0 3 i ",
    "0 2 h 0 q 0 0 1 d 0 1 h 0 1 e 0 1 k 0 1 b 0 1 k 0 q 1 0 1 d 0 1 i 0 1 e 0 1 i 0 x p 0 1 m ",
    "0 1 h 0 4 j 0 1 l 0 1 h 0 1 k 0 1 l 0 1 4 0 1 f 0 1 i 0 1 q 0 1 l 0 1 k 0 1 l 0 1 i 0 2 a ",
    "0 1 k 0 1 1 0 2 h 0 1 k 0 1 a 0 1 4 0 1 g 0 3 a 0 1 h 0 n 0 0 1 i 0 7 0 0 o 1 0 1 i 0 8 1 ",
    "0 1 0 0 1 1 0 1 0 0 1 1 0 1 0 0 1 1 0 1 0 0 1 1 0 1 0 0 1 1 0 1 0 0 1 1 0 1 0 0 1 1 0 1 0 ",
    "0 1 1 0 1 0 0 1 1 0 1 0 0 1 1 0 1 0 0 1 1 0 1 0 0 1 1 0 1 0 0 1 1 0 1 0 0 1 1 0 1 0 0 1 1 ",
    "0 1 0 0 1 1 0 1 0 0 1 1 0 1 0 0 1 1 0 1 0 0 1 1 0 1 0 0 1 1 0 1 0 0 1 1 0 1 0 0 1 1 0 1 0 ",
    "0 1 1 0 1 0 0 1 1 0 1 0 0 1 1 0 1 0 0 1 1 0 1 0 0 1 1 0 1 0 0 2 1 0 1 0 0 1 1 0 1 0 0 1 1 ",
    "0 1 0 0 1 1 0 1 0 0 1 1 0 1 0 0 1 1 0 1 0 0 1 1 0 1 0 0 1 1 0 1 0 0 2 1 0 1 0 0 1 1 0 1 0 ",
    "0 1 1 0 1 0 0 1 1 0 1 0 0 1 1 0 1 0 0 1 1 0 1 0 0 1 1 0 1 0 0 1 1 0 1 0 0 1 1 0 1 0 0 1 1 ",
    "0 1 0 0 1 1 0 1 0 0 1 1 0 1 0 0 1 1 0 1 0 0 1 1 0 1 0 0 1 1 0 1 0 0 1 1 0 1 0 0 1 1 0 1 0 ",
    "0 1 1 0 1 0 0 1 1 0 1 0 0 1 1 0 1 0 0 1 1 0 1 0 0 1 1 0 1 0 0 1 1 0 1 0 0 1 1 0 2 0 0 1 1 ",
    "0 1 0 0 1 1 0 1 0 0 3 1 0 2 0 0 1 1 0 1 0 0 1 1 0 2 0 0 1 1 0 3 0 0 2 1 0 4 0 0 1 1 0 2 0 ",
    "0 1 1 0 3 0 0 3 1 0 2 0 0 1 1 0 2 0 0 1 1 0 1 0 0 1 1 0 1 0 0 1 1 0 2 0 0 1 1 0 1 0 0 2 1 ",
    "0 1 0 0 1 1 0 2 0 0 1 1 0 3 0 0 1 1 0 1 0 0 1 1 0 2 0 0 2 1 0 1 4 0 1 0 0 3 1 0 4 4 0 1 0 ",
    "0 1 2 0 1 1 0 1 0 0 1 2 0 1 1 0 1 0 0 1 2 0 1 1 0 1 0 0 1 1 0 1 0 0 1 1 0 1 0 0 1 1 0 1 0 ",
    "0 1 1 0 1 0 0 1 1 0 1 0 0 1 1 0 1 0 0 1 1 0 1 0 0 2 1 0 1 0 0 1 1 0 1 0 0 1 1 0 1 0 0 1 1 ",
    "0 1 0 0 1 1 0 1 0 0 1 1 0 1 0 0 1 1 0 1 0 0 1 1 0 1 0 0 1 1 0 1 0 0 2 1 0 1 0 0 1 2 0 1 1 ",
    "0 1 0 0 1 1 0 3 0 0 1 1 0 1 0 0 1 1 0 1 0 0 1 1 0 1 0 0 1 1 0 1 0 0 1 1 0 1 0 0 1 1 0 1 0 ",
    "0 1 1 0 1 0 0 1 1 0 1 0 0 1 1 0 1 0 0 1 1 0 1 0 0 1 1 0 1 0 0 1 1 0 1 0 0 1 1 0 1 0 0 1 1 ",
    "0 1 0 0 1 1 0 1 0 0 1 1 0 1 0 0 1 1 0 1 0 0 1 1 0 1 0 0 1 1 0 1 0 0 1 1 0 1 0 0 1 1 0 1 0 ",
    "0 1 1 0 1 0 0 1 1 0 1 0 0 1 1 0 1 0 0 1 1 0 1 0 0 1 1 0 1 0 0 1 1 0 1 0 0 1 1 0 1 0 0 1 1 ",
    "0 1 0 0 7 1 0 2 0 0 1 1 0 2 0 0 2 1 0 1 0 0 1 1 0 4 0 0 1 1 0 1 0 0 1 1 0 1 0 0 1 1 0 1 0 ",
    "0 1 1 0 1 0 0 1x 1 0 1 4 0 r 1 0 i 3 0 4 k 0 c 3 0 e k 0 5 3 0 7 k 0 1 3 0 1 k 0 1 3 0 h ",
    "k 0 34 5 0 1 0 0 1 1 0 1 0 0 1 1 0 1 3 0 1 k 0 1 0 0 1 1 2 1 3 0 3 1 0 1 h 0 1 0 4 2 k 0 ",
    "1 0 0 1 h 0 3 0 1 1 0 1 2 0 0 1 1 0 h 0 1 9 0 0 z 1 0 1 0 0 2 1 0 3 0 0 3 1 0 1 0 0 1 1 0 ",
    "1 0 0 1 1 0 1 0 0 1 1 0 1 0 0 1 1 0 1 0 0 1 1 0 1 0 0 1 1 0 1 0 0 1 1 0 1 0 0 1 1 0 1 0 0 ",
    "1 1 0 1 0 0 1 1 0 1 0 0 1 1 0 1 0 0 5 1 0 1 0 0 1 1 0 1 i 0 1 0 0 1 1 0 2 0 0 2 1 0 1f 0 ",
    "0 1c 1 0 1 0 0 1 1 0 1 0 0 1 1 0 1 0 0 1 1 0 1 0 0 1 1 0 1 0 0 1 1 0 1 0 0 1 1 0 1 0 0 1 ",
    "1 0 1 0 0 1 1 0 1 0 0 1 1 0 1 0 0 1 1 0 1 0 0 1 1 0 1 0 0 1 1 0 1 0 0 1 1 0 1 0 0 1 1 0 1 ",
    "0 0 1 1 0 1 0 0 1 1 0 1 0 0 1 1 0 1 l 0 5 5 0 2 7 0 1 0 0 1 1 0 1 0 0 1 1 0 1 0 0 1 1 0 1 ",
    "0 0 1 1 0 1 0 0 1 1 0 1 0 0 1 1 0 1 0 0 1 1 0 1 0 0 1 1 0 1 0 0 1 1 0 1 0 0 1 1 0 1 0 0 1 ",
    "1 0 1 0 0 1 1 0 1 0 0 1 1 0 1 0 0 1 1 0 1 0 0 1 1 0 1 0 0 1 1 0 1 0 0 1 1 0 1 0 0 1 1 0 1 ",
    "0 0 1 1 0 1 0 0 1 1 0 1 0 0 1 1 0 1 0 0 1 1 0 1 0 0 1 1 0 1 0 0 1 1 0 1 0 0 1 1 0 1 0 0 1 ",
    "1 0 1 0 0 1 1 0 2 0 0 1 1 0 1 0 0 1 1 0 1 0 0 1 1 0 1 0 0 1 1 0 1 0 0 1 1 0 1 0 0 1 1 0 1 ",
    "0 0 2 1 0 1 0 0 1 1 0 1 0 0 1 1 0 1 0 0 1 1 0 1 0 0 1 1 0 1 0 0 1 1 0 1 0 0 1 1 0 1 0 0 1 ",
    "1 0 1 0 0 1 1 0 1 0 0 1 1 0 1 0 0 1 1 0 1 0 0 1 1 0 1 0 0 1 1 0 1 0 0 1 1 0 1 0 0 1 1 0 1 ",
    "0 0 1 1 0 1 0 0 1 1 0 1 0 0 1 1 0 1 0 0 1 1 0 1 0 0 1 1 0 1 0 0 1 1 0 1 0 0 1 1 0 1 0 0 1 ",
    "1 0 1 0 0 1 1 0 1 0 0 1 1 0 1 0 0 1 1 0 1 0 0 1 1 0 1 0 0 1 1 0 1 0 0 1 1 0 1 0 0 1 1 0 1 ",
    "0 0 1 1 0 1 0 0 1 1 0 1 0 0 1 1 0 1 0 0 1 1 0 1 0 0 1 1 0 1 0 0 1 1 0 1 0 0 1 1 0 1 0 0 1 ",
    "1 0 1 0 0 1 1 0 1 0 0 1 1 0 1 0 0 1 1 0 1 0 0 1 1 0 1 0 0 1 1 0 1 0 0 1 1 0 1 0 0 1 1 0 1 ",
    "0 0 1 1 0 1 0 0 1 1 0 1 0 0 1 1 0 1 0 0 1 1 1 12 0 2 1 3 0 6 h 0 15 1 0 1 h 0 1 c 2 2 l 0 ",
    "1 j 1 19 5 0 1 c 0 1 5 0 1 h 0 2 5 0 1 h 0 2 5 0 1 h 0 1 5 8 r 4 4 4 4 0 2 h b 6 q 0 3 i ",
    "0 2 h 0 1 j 0 2 h 0 2 l 0 b 5 0 1 h 0 1 q 0 3 h 0 w 4 0 1 3 0 a 4 0 l 5 0 a 8 0 4 h 0 2 4 ",
    "0 1 5 0 2r 4 0 1 h 0 1 4 0 7 5 0 1 q 0 1 l 0 6 5 0 2 3 0 2 5 0 1 l 0 4 5 0 2 4 0 a 8 0 3 ",
    "4 0 2 l 0 1 4 0 e h 1 1 q 0 1 4 0 1 5 0 u 4 0 r 5 2 2h 4 0 b 5 0 1 4 e a 8 0 x 4 0 9 5 0 ",
    "2 3 0 1 l 0 3 h 0 1 3 2 1 5 0 2 j 0 m 4 0 4 5 0 1 3 0 9 5 0 1 3 0 3 5 0 1 3 0 5 5 2 f h 1 ",
    "p 4 0 3 5 2 1 h 1 b 4 5 o 4 0 1 k 0 6 4 1 2 q 6 8 5 0 15 4 0 1 3 0 o 5 0 1 q 0 w 5 0 1 6 ",
    "0 1i 4 0 1 5 0 1 6 0 1 5 0 1 4 0 3 6 0 8 5 0 4 6 0 1 5 0 2 6 0 1 4 0 7 5 0 a 4 0 2 5 0 2 ",
    "h 0 a 8 0 1 h 0 1 3 0 f 4 0 1 5 0 2 6 1 8 4 2 2 4 2 m 4 1 7 4 1 1 4 3 4 4 2 1 5 0 1 4 0 3 ",
    "6 0 4 5 2 2 6 2 2 6 0 1 5 0 1 4 8 1 6 4 2 4 1 3 4 0 2 5 2 a 8 0 2 4 0 2 j 0 6 a 0 1 l 0 1 ",
    "j 0 1 4 0 1 h 0 1 5 2 2 5 0 1 6 1 6 4 4 2 4 2 m 4 1 7 4 1 2 4 1 2 4 1 2 4 2 1 5 1 3 6 0 2 ",
    "5 4 2 5 2 3 5 3 1 5 7 4 4 1 1 4 7 a 8 0 2 5 0 3 4 0 1 5 0 1 h a 2 5 0 1 6 1 9 4 1 3 4 1 m ",
    "4 1 7 4 1 2 4 1 5 4 2 1 5 0 1 4 0 3 6 0 5 5 1 2 5 0 1 6 1 2 6 0 1 5 2 1 4 f 2 4 0 2 5 2 a ",
    "8 0 1 h 0 1 j 7 1 4 0 6 5 1 1 5 0 2 6 1 8 4 2 2 4 2 m 4 1 7 4 1 2 4 1 5 4 2 1 5 0 1 4 0 1 ",
    "6 0 1 5 0 1 6 0 4 5 2 2 6 2 2 6 0 1 5 7 2 5 0 1 6 4 2 4 1 3 4 0 2 5 2 a 8 0 1 l 0 1 4 0 6 ",
    "a a 1 5 0 1 4 1 6 4 3 3 4 1 4 4 3 2 4 1 1 4 1 2 4 3 2 4 3 3 4 3 c 4 4 2 6 0 1 5 0 2 6 3 3 ",
    "6 1 3 6 0 1 5 2 1 4 6 1 6 e a 8 0 3 a 0 6 l 0 1 j 0 1 l 5 1 5 0 3 6 0 1 5 0 8 4 1 3 4 1 n ",
    "4 1 g 4 2 1 5 0 1 4 0 3 5 0 4 6 1 3 5 1 4 5 7 2 5 1 3 4 2 1 4 2 2 4 0 2 5 2 a 8 7 1 h 0 7 ",
    "a 0 1 l 0 1 4 0 1 5 0 2 6 0 1 h 0 8 4 1 3 4 1 n 4 1 a 4 1 5 4 2 1 5 0 1 4 0 1 6 0 1 5 0 5 ",
    "6 1 1 5 0 2 6 1 2 6 0 2 5 7 2 6 6 2 4 1 2 4 0 2 5 2 a 8 1 2 4 0 1 6 c 2 5 0 2 6 0 9 4 1 3 ",
    "4 1 15 4 0 2 5 0 1 4 0 3 6 0 4 5 1 3 6 1 3 6 0 1 5 0 1 4 0 1 l 4 3 4 0 1 6 0 7 a 0 3 4 0 ",
    "2 5 2 a 8 0 9 a 0 1 l 0 6 4 1 1 5 0 2 6 1 i 4 3 o 4 1 9 4 1 1 4 2 7 4 3 1 5 4 3 6 0 3 5 1 ",
    "1 5 1 8 6 6 a 8 2 2 6 0 1 h c 1c 4 0 1 5 0 2 4 0 7 5 4 1 j 0 6 4 0 1 3 0 8 5 0 1 h 0 a 8 ",
    "0 2 h 11 2 4 1 1 4 1 5 4 1 o 4 1 1 4 1 a 4 0 1 5 0 2 4 0 9 5 0 1 4 2 5 4 1 1 3 1 7 5 1 a ",
    "8 2 4 4 w 1 4 0 3 l 0 f h 0 1 l 0 1 h 0 3 l 0 2 5 0 6 l 0 a 8 0 a a 0 1 l 0 1 5 0 1 l 0 1 ",
    "5 0 1 l 0 1 5 0 1 d 0 1 e 0 1 d 0 1 e 0 2 6 0 8 4 1 10 4 4 e 5 0 1 6 0 5 5 0 1 h 0 2 5 0 ",
    "5 4 0 b 5 1 10 5 1 8 l 0 1 5 0 6 l 1 2 l 0 5 h 0 4 l 0 2 h 11 17 4 0 2 6 0 4 5 0 1 6 0 6 ",
    "5 0 1 6 0 2 5 0 2 6 0 2 5 0 1 4 0 a 8 0 6 h 0 6 4 0 2 6 0 2 5 0 4 4 0 3 5 0 1 4 0 3 6 0 2 ",
    "4 0 7 6 0 3 4 0 4 5 0 d 4 0 1 5 0 2 6 0 2 5 0 6 6 0 1 5 0 1 4 0 1 6 0 a 8 0 3 6 0 1 5 0 2 ",
    "l 0 12 0 1 1 0 5 1 0 2 17 1 0 1 h 0 1 3 0 3 1 0 95 4 1 4 4 2 7 4 1 1 4 1 4 4 2 15 4 1 4 4 ",
    "2 x 4 1 4 4 2 7 4 1 1 4 1 4 4 2 f 4 1 1l 4 1 4 4 2 1v 4 2 3 5 0 9 h 0 k a 3 g 4 0 a l 6 ",
    "2e 0 2 6 1 2 1 c 0 h8 4 0 1 l 0 1 h 0 h 4 0 1 m 0 q 4 0 1 d 0 1 e 3 23 4 0 3 h 0 3 9 0 8 ",
    "4 7 i 4 0 3 5 0 1 6 9 j 4 0 2 5 0 1 6 0 2 h 9 i 4 0 2 5 c d 4 1 3 4 1 2 5 c 1g 4 0 2 5 0 ",
    "1 6 0 7 5 0 8 6 0 1 5 0 2 6 0 b 5 0 3 h 0 1 3 0 3 h 0 1 j 0 1 4 0 1 5 2 a 8 6 a a 6 6 h 0 ",
    "1 c 0 4 h 0 3 5 0 1 q 0 1 5 0 a 8 6 z 4 0 1 3 0 1h 4 7 5 4 0 2 5 0 y 4 0 1 5 0 1 4 5 1y 4 ",
    "a v 4 1 3 5 0 4 6 0 2 5 0 3 6 4 2 6 0 1 5 0 6 6 0 3 5 4 1 l 3 2 h 0 a 8 0 u 4 2 5 4 b 18 ",
    "4 4 q 4 6 a 8 0 1 a 3 y l 0 n 4 0 2 5 0 2 6 0 1 5 2 2 h 0 1h 4 0 1 6 0 1 5 0 1 6 0 7 5 1 ",
    "1 5 0 1 6 0 1 5 0 2 6 0 8 5 0 6 6 0 a 5 2 1 5 0 a 8 6 a 8 6 7 h 0 1 3 0 6 h 2 e 5 0 1 7 0 ",
    "g 5 1d 4 5 0 1 6 0 1b 4 0 1 5 0 1 6 0 5 5 0 1 6 0 1 5 0 5 6 0 1 5 0 2 6 0 8 4 3 a 8 0 7 h ",
    "0 a l 0 9 5 0 9 l 0 2 h 1 2 5 0 1 6 0 u 4 0 1 6 0 4 5 0 2 6 0 2 5 0 1 6 0 3 5 0 2 4 0 a 8 ",
    "0 18 4 0 1 5 0 1 6 0 2 5 0 3 6 0 1 5 0 1 6 0 3 5 0 2 6 8 4 h 0 10 4 0 8 6 0 8 5 0 2 6 0 2 ",
    "5 3 5 h 0 a 8 3 3 4 0 a 8 0 u 4 0 6 3 0 2 h 0 9 1 7 17 0 2 3 0 0 8 h 8 3 5 0 1 h 0 d 5 0 ",
    "1 6 0 7 5 0 4 4 0 1 5 0 6 4 0 1 5 0 2 4 0 1 6 0 2 5 0 1 4 5 18 1 0 1r 3 0 d 1 0 1 3 0 y 1 ",
    "0 11 3 0 1s 5 0 1 0 0 1 1 0 1 0 0 1 1 0 1 0 0 1 1 0 1 0 0 1 1 0 1 0 0 1 1 0 1 0 0 1 1 0 1 ",
    "0 0 1 1 0 1 0 0 1 1 0 1 0 0 1 1 0 1 0 0 1 1 0 1 0 0 1 1 0 1 0 0 1 1 0 1 0 0 1 1 0 1 0 0 1 ",
    "1 0 1 0 0 1 1 0 1 0 0 1 1 0 1 0 0 1 1 0 1 0 0 1 1 0 1 0 0 1 1 0 1 0 0 1 1 0 1 0 0 1 1 0 1 ",
    "0 0 1 1 0 1 0 0 1 1 0 1 0 0 1 1 0 1 0 0 1 1 0 1 0 0 1 1 0 1 0 0 1 1 0 1 0 0 1 1 0 1 0 0 1 ",
    "1 0 1 0 0 1 1 0 1 0 0 1 1 0 1 0 0 1 1 0 1 0 0 1 1 0 1 0 0 1 1 0 1 0 0 1 1 0 1 0 0 1 1 0 1 ",
    "0 0 1 1 0 1 0 0 1 1 0 1 0 0 1 1 0 1 0 0 1 1 0 1 0 0 1 1 0 1 0 0 1 1 0 1 0 0 1 1 0 1 0 0 1 ",
    "1 0 1 0 0 1 1 0 1 0 0 1 1 0 1 0 0 1 1 0 1 0 0 1 1 0 1 0 0 1 1 0 1 0 0 1 1 0 1 0 0 1 1 0 1 ",
    "0 0 1 1 0 1 0 0 1 1 0 1 0 0 1 1 0 1 0 0 1 1 0 1 0 0 1 1 0 1 0 0 1 1 0 1 0 0 1 1 0 1 0 0 1 ",
    "1 0 1 0 0 1 1 0 1 0 0 1 1 0 1 0 0 1 1 0 1 0 0 1 1 0 1 0 0 1 1 0 1 0 0 1 1 0 1 0 0 1 1 0 1 ",
    "0 0 1 1 0 1 0 0 1 1 0 1 0 0 1 1 0 1 0 0 1 1 0 1 0 0 1 1 0 1 0 0 1 1 0 1 0 0 1 1 0 1 0 0 1 ",
    "1 0 1 0 0 9 1 0 1 0 0 1 1 0 1 0 0 1 1 0 1 0 0 1 1 0 1 0 0 1 1 0 1 0 0 1 1 0 1 0 0 1 1 0 1 ",
    "0 0 1 1 0 1 0 0 1 1 0 1 0 0 1 1 0 1 0 0 1 1 0 1 0 0 1 1 0 1 0 0 1 1 0 1 0 0 1 1 0 1 0 0 1 ",
    "1 0 1 0 0 1 1 0 1 0 0 1 1 0 1 0 0 1 1 0 1 0 0 1 1 0 1 0 0 1 1 0 1 0 0 1 1 0 1 0 0 1 1 0 1 ",
    "0 0 1 1 0 1 0 0 1 1 0 1 0 0 1 1 0 1 0 0 1 1 0 1 0 0 1 1 0 1 0 0 1 1 0 1 0 0 1 1 0 1 0 0 1 ",
    "1 0 1 0 0 1 1 0 1 0 0 1 1 0 1 0 0 1 1 0 1 0 0 1 1 0 1 0 0 1 1 0 1 0 0 1 1 0 1 0 0 1 1 0 1 ",
    "0 0 1 1 0 1 0 0 1 1 0 1 0 0 1 1 0 1 0 0 1 1 0 1 0 0 1 1 0 1 0 0 1 1 0 1 0 0 1 1 0 1 0 0 1 ",
    "1 0 1 0 0 1 1 0 1 0 0 1 1 0 1 0 0 1 1 0 1 0 0 1 1 0 1 0 0 9 1 0 8 0 0 6 1 2 6 0 2 8 1 0 8 ",
    "0 0 8 1 0 8 0 0 6 1 2 6 0 2 8 1 1 1 0 1 1 0 1 1 0 1 1 0 0 8 1 0 8 0 0 e 1 2 8 1 0 8 2 0 8 ",
    "1 0 8 2 0 8 1 0 8 2 0 5 1 1 2 1 0 4 0 0 1 2 0 1 k 0 1 1 0 3 k 0 3 1 1 2 1 0 4 0 0 1 2 0 3 ",
    "k 0 4 1 2 2 1 0 4 0 1 3 k 0 8 1 0 5 0 0 3 k 2 3 1 1 2 1 0 4 0 0 1 2 0 2 k 1 b m 0 5 q 0 6 ",
    "c 0 2 h 0 1 f 0 1 g 0 1 d 0 2 f 0 1 g 0 1 d 0 1 f 0 8 h 0 1 n 0 1 o 0 5 q 0 1 m 0 9 h 0 1 ",
    "f 0 1 g 0 4 h 0 2 b 0 3 h 0 1 i 0 1 d 0 1 e 0 b h 0 1 i 0 1 h 0 1 b 0 a h 0 1 m 0 5 q 1 a ",
    "q 0 1 a 0 1 3 2 6 a 0 3 i 0 1 d 0 1 e 0 1 3 0 a a 0 3 i 0 1 d 0 1 e 1 d 3 3 x j f d 5 0 4 ",
    "7 0 1 5 0 3 7 0 c 5 f 2 l 0 1 0 0 4 l 0 1 0 0 2 l 0 1 1 0 3 0 0 2 1 0 3 0 0 1 1 0 1 l 0 1 ",
    "0 0 2 l 0 1 i 0 5 0 0 6 l 0 1 0 0 1 l 0 1 0 0 1 l 0 1 0 0 1 l 0 4 0 0 1 l 0 1 1 0 4 0 0 1 ",
    "1 0 4 4 0 1 1 0 2 l 0 2 1 0 2 0 0 5 i 0 1 0 0 4 1 0 1 l 0 1 i 0 2 l 0 1 1 0 1 l 0 g a 0 z ",
    "9 0 1 0 0 1 1 0 4 9 0 1 a 0 2 l 4 5 i 0 5 l 0 2 i 0 4 l 0 1 i 0 2 l 0 1 i 0 2 l 0 1 i 0 7 ",
    "l 0 1 i 0 v l 0 2 i 0 2 l 0 1 i 0 1 l 0 1 i 0 v l 0 7g i 0 8 l 0 1 d 0 1 e 0 1 d 0 1 e 0 ",
    "k l 0 2 i 0 7 l 0 1 d 0 1 e 0 29 l 0 1 i 0 u l 0 p i 0 14 l 0 6 i 0 1x l p b l l 1o a 0 ",
    "26 l 0 m a 0 53 l 0 1 i 0 9 l 0 1 i 0 1i l 0 8 i 0 33 l 0 1 i 0 6w l 0 1 d 0 1 e 0 1 d 0 ",
    "1 e 0 1 d 0 1 e 0 1 d 0 1 e 0 1 d 0 1 e 0 1 d 0 1 e 0 1 d 0 1 e 0 u a 0 18 l 0 5 i 0 1 d ",
    "0 1 e 0 v i 0 1 d 0 1 e 0 1 d 0 1 e 0 1 d 0 1 e 0 1 d 0 1 e 0 1 d 0 1 e 0 g i 0 74 l 0 3n ",
    "i 0 1 d 0 1 e 0 1 d 0 1 e 0 1 d 0 1 e 0 1 d 0 1 e 0 1 d 0 1 e 0 1 d 0 1 e 0 1 d 0 1 e 0 1 ",
    "d 0 1 e 0 1 d 0 1 e 0 1 d 0 1 e 0 1 d 0 1 e 0 1r i 0 1 d 0 1 e 0 1 d 0 1 e 0 w i 0 1 d 0 ",
    "1 e 0 76 i 0 1c l 0 l i 0 2 l 0 6 i 0 13 l 2 w l 1 2x l 0 1c 0 0 1c 1 0 1 0 0 1 1 0 3 0 0 ",
    "2 1 0 1 0 0 1 1 0 1 0 0 1 1 0 1 0 0 1 1 0 4 0 0 1 1 0 1 0 0 2 1 0 1 0 0 6 1 0 2 3 0 3 0 0 ",
    "1 1 0 1 0 0 1 1 0 1 0 0 1 1 0 1 0 0 1 1 0 1 0 0 1 1 0 1 0 0 1 1 0 1 0 0 1 1 0 1 0 0 1 1 0 ",
    "1 0 0 1 1 0 1 0 0 1 1 0 1 0 0 1 1 0 1 0 0 1 1 0 1 0 0 1 1 0 1 0 0 1 1 0 1 0 0 1 1 0 1 0 0 ",
    "1 1 0 1 0 0 1 1 0 1 0 0 1 1 0 1 0 0 1 1 0 1 0 0 1 1 0 1 0 0 1 1 0 1 0 0 1 1 0 1 0 0 1 1 0 ",
    "1 0 0 1 1 0 1 0 0 1 1 0 1 0 0 1 1 0 1 0 0 1 1 0 1 0 0 1 1 0 1 0 0 1 1 0 1 0 0 1 1 0 1 0 0 ",
    "1 1 0 1 0 0 1 1 0 1 0 0 1 1 0 1 0 0 1 1 0 1 0 0 1 1 0 1 0 0 1 1 0 1 0 0 1 1 0 1 0 0 1 1 0 ",
    "1 0 0 1 1 0 1 0 0 1 1 0 1 0 0 1 1 0 1 0 0 1 1 0 1 0 0 1 1 0 1 0 0 1 1 0 1 0 0 1 1 0 1 0 0 ",
    "1 1 0 1 0 0 1 1 0 1 0 0 1 1 0 1 0 0 1 1 0 1 0 0 2 1 0 6 l 0 1 0 0 1 1 0 1 0 0 1 1 0 3 5 0 ",
    "1 0 0 1 1 5 4 h 0 1 a 0 2 h 0 12 1 1 1 1 5 1 1 2 1k 4 7 1 3 0 1 h e 1 5 0 n 4 9 7 4 1 7 4 ",
    "1 7 4 1 7 4 1 7 4 1 7 4 1 7 4 1 7 4 1 w 5 0 2 h 0 1 f 0 1 g 0 1 f 0 1 g 0 3 h 0 1 f 0 1 g ",
    "0 1 h 0 1 f 0 1 g 0 9 h 0 1 c 0 2 h 0 1 c 0 1 h 0 1 f 0 1 g 0 2 h 0 1 f 0 1 g 0 1 d 0 1 e ",
    "0 1 d 0 1 e 0 1 d 0 1 e 0 1 d 0 1 e 0 5 h 0 1 3 0 a h 0 2 c 0 4 h 0 1 c 0 1 h 0 1 d 0 d h ",
    "0 2 l 0 3 h 0 1 d 0 1 e 0 1 d 0 1 e 0 1 d 0 1 e 0 1 d 0 1 e 0 1 c y q l 1 2h l c 5y l q c ",
    "l 4 1 m 0 3 h 0 1 l 0 1 3 0 1 4 0 1 9 0 1 d 0 1 e 0 1 d 0 1 e 0 1 d 0 1 e 0 1 d 0 1 e 0 1 ",
    "d 0 1 e 0 2 l 0 1 d 0 1 e 0 1 d 0 1 e 0 1 d 0 1 e 0 1 d 0 1 e 0 1 c 0 1 d 0 2 e 0 1 l 0 9 ",
    "9 0 4 5 0 2 6 0 1 c 0 5 3 0 2 l 0 3 9 0 1 3 0 1 4 0 1 h 0 2 l 1 2e 4 2 2 5 0 2 k 0 2 3 0 ",
    "1 4 0 1 c 0 2i 4 0 1 h 0 3 3 0 1 4 5 17 4 1 2m 4 1 2 l 0 4 a 0 a l 0 w 4 0 10 l c g 4 0 v ",
    "l 1 a a 0 u l 0 8 a 0 1 l 0 f a 0 w l 0 a a 0 13 l 0 f a 0 8w l 0 534 4 0 1s l 0 g7p 4 0 ",
    "1 3 0 vr 4 3 1j l 9 14 4 0 6 3 0 2 h 0 7g 4 0 1 3 0 3 h 0 g 4 0 a 8 0 2 4 k 1 0 0 1 1 0 1 ",
    "0 0 1 1 0 1 0 0 1 1 0 1 0 0 1 1 0 1 0 0 1 1 0 1 0 0 1 1 0 1 0 0 1 1 0 1 0 0 1 1 0 1 0 0 1 ",
    "1 0 1 0 0 1 1 0 1 0 0 1 1 0 1 0 0 1 1 0 1 0 0 1 1 0 1 0 0 1 1 0 1 0 0 1 1 0 1 0 0 1 1 0 1 ",
    "0 0 1 1 0 1 0 0 1 1 0 1 0 0 1 1 0 1 0 0 1 1 0 1 0 0 1 1 0 1 0 0 1 1 0 1 0 0 1 1 0 1 4 0 1 ",
    "5 0 3 7 0 1 h 0 a 5 0 1 h 0 1 3 0 1 0 0 1 1 0 1 0 0 1 1 0 1 0 0 1 1 0 1 0 0 1 1 0 1 0 0 1 ",
    "1 0 1 0 0 1 1 0 1 0 0 1 1 0 1 0 0 1 1 0 1 0 0 1 1 0 1 0 0 1 1 0 1 0 0 1 1 0 1 0 0 1 1 0 1 ",
    "0 0 1 1 0 1 0 0 1 1 0 2 3 0 2 5 0 1y 4 0 a 9 0 2 5 0 6 h 8 n k 0 9 3 0 2 k 0 1 0 0 1 1 0 ",
    "1 0 0 1 1 0 1 0 0 1 1 0 1 0 0 1 1 0 1 0 0 1 1 0 1 0 0 1 1 0 1 0 0 3 1 0 1 0 0 1 1 0 1 0 0 ",
    "1 1 0 1 0 0 1 1 0 1 0 0 1 1 0 1 0 0 1 1 0 1 0 0 1 1 0 1 0 0 1 1 0 1 0 0 1 1 0 1 0 0 1 1 0 ",
    "1 0 0 1 1 0 1 0 0 1 1 0 1 0 0 1 1 0 1 0 0 1 1 0 1 0 0 1 1 0 1 0 0 1 1 0 1 0 0 1 1 0 1 0 0 ",
    "1 1 0 1 0 0 1 1 0 1 0 0 1 1 0 1 0 0 1 1 0 1 0 0 1 1 0 1 0 0 1 1 0 1 0 0 1 1 0 1 0 0 1 1 0 ",
    "1 0 0 1 1 0 1 0 0 1 1 0 1 0 0 1 1 0 1 0 0 1 1 0 1 0 0 1 1 0 1 0 0 1 1 0 1 0 0 1 1 0 1 3 0 ",
    "8 1 0 1 0 0 1 1 0 1 0 0 1 1 0 2 0 0 1 1 0 1 0 0 1 1 0 1 0 0 1 1 0 1 0 0 1 1 0 1 0 0 1 1 0 ",
    "1 3 0 2 k 0 1 0 0 1 1 0 1 0 0 1 1 0 1 4 0 1 0 0 1 1 0 1 0 0 3 1 0 1 0 0 1 1 0 1 0 0 1 1 0 ",
    "1 0 0 1 1 0 1 0 0 1 1 0 1 0 0 1 1 0 1 0 0 1 1 0 1 0 0 1 1 0 1 0 0 1 1 0 1 0 0 1 1 0 1 0 0 ",
    "1 1 0 5 0 0 1 1 0 5 0 0 1 1 0 1 0 0 1 1 0 1 0 0 1 1 0 1 0 0 1 1 0 1 0 0 1 1 0 1 0 0 1 1 0 ",
    "1 0 0 1 1 0 1 0 0 1 1 0 4 0 0 1 1 0 1 0 0 1 1 5 1 0 0 1 1 1 1 1 1 1 1 0 1 0 0 1 1 0 1 0 0 ",
    "1 1 o 3 3 0 1 0 0 1 1 0 1 4 0 2 3 0 1 1 0 7 4 0 1 5 0 3 4 0 1 5 0 4 4 0 1 5 0 n 4 0 2 6 0 ",
    "2 5 0 1 6 0 4 l 0 1 5 3 6 a 0 2 l 0 1 j 0 1 l 6 1g 4 0 4 h 8 2 6 0 1e 4 0 g 6 0 2 5 8 2 h ",
    "0 a 8 6 i 5 0 6 4 0 3 h 0 1 4 0 1 h 0 2 4 0 1 5 0 a 8 0 s 4 0 8 5 0 2 h 0 n 4 0 b 5 0 2 6 ",
    "b 1 h 0 t 4 3 3 5 0 1 6 0 1b 4 0 1 5 0 2 6 0 4 5 0 2 6 0 2 5 0 3 6 0 d h 1 1 3 0 a 8 4 2 ",
    "h 0 5 4 0 1 5 0 1 3 0 9 4 0 a 8 0 5 4 1 15 4 0 6 5 0 2 6 0 2 5 0 2 6 0 2 5 9 3 4 0 1 5 0 ",
    "8 4 0 1 5 0 1 6 2 a 8 2 4 h 0 g 4 0 1 3 0 6 4 0 3 l 0 1 4 0 1 6 0 1 5 0 1 6 0 1e 4 0 1 5 ",
    "0 1 4 0 3 5 0 2 4 0 2 5 0 5 4 0 2 5 0 1 4 0 1 5 0 1 4 o 2 4 0 1 3 0 2 h 0 b 4 0 1 6 0 2 5 ",
    "0 2 6 0 2 h 0 1 4 0 2 3 0 1 6 0 1 5 a 6 4 2 6 4 2 6 4 9 7 4 1 7 4 1 17 1 0 1 k 0 4 3 0 9 ",
    "1 0 1 3 0 2 k 4 28 1 0 z 4 0 2 6 0 1 5 0 2 6 0 1 5 0 2 6 0 1 h 0 1 6 0 1 5 2 a 8 6 8mc 4 ",
    "c n 4 4 1d 4 4 1kw r 0 4xs s 0 a6 4 2 2y 4 12 7 1 c 5 1 5 1 4 0 1 5 0 a 4 0 1 i 0 d 4 1 5 ",
    "4 1 1 4 1 2 4 1 2 4 1 30 4 0 h k g a3 4 0 1 e 0 1 d 0 g l 0 1s 4 2 1i 4 7 1 l w c 4 0 1 j ",
    "0 3 l 0 g 5 0 7 h 0 1 d 0 1 e 0 1 h 6 g 5 0 1 h 0 2 c 0 2 b 0 1 d 0 1 e 0 1 d 0 1 e 0 1 d ",
    "0 1 e 0 1 d 0 1 e 0 1 d 0 1 e 0 1 d 0 1 e 0 1 d 0 1 e 0 1 d 0 1 e 0 2 h 0 1 d 0 1 e 0 4 h ",
    "0 3 b 0 3 h 1 4 h 0 1 c 0 1 d 0 1 e 0 1 d 0 1 e 0 1 d 0 1 e 0 3 h 0 1 i 0 1 c 0 3 i 1 1 h ",
    "0 1 j 0 2 h 4 5 4 1 3r 4 2 1 q 1 3 h 0 1 j 0 3 h 0 1 d 0 1 e 0 1 h 0 1 i 0 1 h 0 1 c 0 2 ",
    "h 0 a 8 0 2 h 0 3 i 0 2 h 0 q 0 0 1 d 0 1 h 0 1 e 0 1 k 0 1 b 0 1 k 0 q 1 0 1 d 0 1 i 0 1 ",
    "e 0 1 i 0 1 d 0 1 e 0 1 h 0 1 d 0 1 e 0 2 h 0 a 4 0 1 3 0 19 4 0 2 3 0 v 4 3 6 4 2 6 4 2 ",
    "6 4 2 3 4 3 2 j 0 1 i 0 1 k 0 1 l 0 2 j 1 1 l 0 4 i 0 2 l a 3 q 0 2 l 2 c 4 1 q 4 1 j 4 1 ",
    "2 4 1 f 4 2 e 4 y 3f 4 5 3 h 4 19 a 3 9 l 0 1h 9 0 4 a 0 h l 0 2 a 0 3 l 1 d l 3 1 l 1b ",
    "19 l 0 1 5 3m t 4 3 1d 4 f 1 5 0 r a 4 w 4 0 4 a 9 k 4 0 1 9 0 8 4 0 1 9 5 12 4 0 5 5 5 u ",
    "4 1 1 h 0 10 4 4 8 4 0 1 h 0 5 9 16 14 0 0 14 1 0 26 4 2 a 8 6 10 0 4 10 1 4 14 4 8 1g 4 ",
    "b 1 h 0 b 0 1 f 0 1 7 0 1 2 0 1 b 1 1 f 1 1 7 1 1 2 1 1v 8n 4 9 m 4 a 8 4 o 6 3 1 16 3 1 ",
    "9 3 1x 6 4 2 1 4 1 18 4 1 2 4 3 1 4 2 n 4 1 1 h 0 8 a 0 n 4 0 2 l 0 7 a 0 v 4 8 9 a 1c j ",
    "4 1 2 4 5 5 a 0 m 4 0 6 a 3 1 h 0 q 4 5 1 h 1s 1k 4 4 2 a 0 2 4 0 g a 2 1a a 0 1 4 0 3 5 ",
    "1 2 5 5 4 5 0 4 4 1 3 4 1 t 4 2 3 5 4 1 5 0 9 a 7 9 h 7 t 4 0 2 a 0 1 h 0 t 4 0 3 a w 8 4 ",
    "0 1 l 0 s 4 0 2 5 4 5 a 0 7 h 9 1i 4 3 7 h 0 m 4 2 8 a 0 j 4 5 8 a 0 i 4 7 4 h c 7 a 28 ",
    "21 4 1j 1f 0 d 1f 1 7 6 a 0 10 4 0 4 5 8 a 8 86 v a 1 16 4 1 2 5 0 1 c 2 2 4 23 3 5 0 t 4 ",
    "0 a a 0 1 4 8 m 4 0 b 5 0 4 a 0 5 h m i 4 0 4 5 0 4 h 12 l 4 0 7 a k n 4 9 1 6 0 1 5 0 1 ",
    "6 0 1h 4 0 f 5 0 7 h 4 k a 0 a 8 0 1 5 0 2 4 0 2 5 0 1 4 9 3 5 0 1 6 0 19 4 0 3 6 0 4 5 0 ",
    "2 6 0 2 5 0 2 h 0 1 q 0 4 h 0 1 5 a 1 q 2 p 4 7 a 8 6 3 5 0 10 4 0 5 5 0 1 6 0 8 5 1 a 8 ",
    "0 4 h 0 1 4 0 2 6 0 1 4 8 z 4 0 1 5 0 2 h 0 1 4 9 2 5 0 1 6 0 1c 4 0 3 6 0 9 5 0 2 6 0 4 ",
    "4 0 4 h 0 4 5 0 1 h 0 1 6 0 1 5 0 a 8 0 1 4 0 1 h 0 1 4 0 3 h 1 k a b i 4 1 p 4 0 3 6 0 3 ",
    "5 0 2 6 0 1 5 0 1 6 0 2 5 0 6 h 0 1 5 0 2 4 0 1 5 1q 7 4 1 1 4 1 4 4 1 f 4 1 a 4 0 1 h 6 ",
    "1b 4 0 1 5 0 3 6 0 8 5 5 a 8 6 2 5 0 2 6 1 8 4 2 2 4 2 m 4 1 7 4 1 2 4 1 5 4 1 2 5 0 1 4 ",
    "0 2 6 0 1 5 0 4 6 2 2 6 2 3 6 2 1 4 6 1 6 5 5 4 0 2 6 2 7 5 3 5 5 3v 1h 4 0 3 6 0 8 5 0 2 ",
    "6 0 3 5 0 1 6 0 1 5 0 4 4 0 5 h 0 a 8 0 2 h 1 1 h 0 1 5 0 3 4 u 1c 4 0 3 6 0 6 5 0 1 6 0 ",
    "1 5 0 4 6 0 2 5 0 1 6 0 2 5 0 2 4 0 1 h 0 1 4 8 a 8 4m 1b 4 0 3 6 0 4 5 2 4 6 0 2 5 0 1 6 ",
    "0 2 5 0 n h 0 4 4 0 2 5 y 1c 4 0 3 6 0 8 5 0 2 6 0 1 5 0 1 6 0 2 5 0 3 h 0 1 4 b a 8 6 d ",
    "h j 17 4 0 1 5 0 1 6 0 1 5 0 2 6 0 6 5 0 1 6 0 1 5 0 1 4 0 1 h 6 a 8 1i r 4 2 3 5 0 2 6 0 ",
    "4 5 0 1 6 0 5 5 4 a 8 0 2 a 0 3 h 0 1 l 0 7 4 55 18 4 0 3 6 0 9 5 0 1 6 0 2 5 0 1 h 2s w ",
    "0 0 w 1 0 a 8 0 9 a c 8 4 2 1 4 2 8 4 1 2 4 1 o 4 0 6 6 1 2 6 2 2 5 0 1 6 0 1 5 0 1 4 0 1 ",
    "6 0 1 4 0 1 6 0 1 5 0 3 h 9 a 8 1y 8 4 2 13 4 0 3 6 0 4 5 2 2 5 0 4 6 0 1 5 0 1 4 0 1 h 0 ",
    "1 4 0 1 6 r 1 4 0 a 5 0 14 4 0 6 5 0 1 6 0 1 4 0 4 5 0 8 h 0 1 5 8 1 4 0 6 5 0 2 6 0 3 5 ",
    "0 1a 4 0 d 5 0 1 6 0 2 5 0 3 h 0 1 4 0 5 h d 21 4 7 a h 6u 9 4 1 11 4 0 1 6 0 7 5 1 6 5 0 ",
    "1 6 0 1 5 0 1 4 0 5 h a a 8 0 j a 3 2 h 0 u 4 2 m 5 1 1 6 0 7 5 0 1 6 0 2 5 0 1 6 0 2 5 ",
    "21 7 4 1 2 4 1 12 4 0 6 5 3 1 5 1 2 5 1 7 5 0 1 4 0 1 5 8 a 8 6 6 4 1 2 4 1 w 4 0 5 6 1 2 ",
    "5 1 2 6 0 1 5 0 1 6 0 1 5 0 1 4 7 a 8 8m j 4 0 2 5 0 2 6 0 2 h 7 2 5 0 1 4 0 1 6 0 d 4 1 ",
    "y 4 0 2 6 0 5 5 3 2 6 0 1 5 0 1 6 0 1 5 0 d h 0 a 8 2e 1 4 f l a 0 8 l 0 4 j 0 h l d 1 h ",
    "0 pm 4 2u 33 9 1 5 h b 5g 4 218 2p 4 0 2 h d ts 4 0 g q 0 1 5 0 6 4 0 f 5 33e g7 4 6nt ft ",
    "4 7 v 4 1 a 8 4 2 h 0 27 4 1 a 8 6 u 4 2 5 5 0 1 h a 1c 4 0 7 5 0 5 h 0 4 l 0 4 3 0 1 h 0 ",
    "1 l a a 8 1 7 a 1 l 4 5 j 4 j4 w 0 0 w 1 0 n a 0 4 h 2t 23 4 4 1 5 0 1 4 0 1j 6 7 4 5 0 d ",
    "3 1s 2 3 0 1 h 0 1 3 0 1 5 b 2 6 e 4qg 4 8 ye 4 16 9 4 6w7 4 3 1 7 3 1 2 3 1 83 4 f 1 4 t ",
    "3 4 2 1 4 e 4 4 8 b0 4 1s4 2z 4 5 d 4 3 9 4 7 a 4 2 1 l 0 2 5 0 1 h 0 4 q 3mk 1a 5 2 n 5 ",
    "9 38 l 1o 6u l a 13 l 2 1o l 0 2 6 0 3 5 0 3 l 0 6 6 0 8 q 0 8 5 0 2 l 0 7 5 0 u l 0 4 5 ",
    "0 1p l l 1u l 0 3 5 0 1 l 3e k a c k a c 2f l 9 p a 3r q 0 0 q 1 0 q 0 0 7 1 1 i 1 0 q 0 ",
    "0 q 1 0 1 0 1 2 0 2 1 0 2 2 0 2 4 0 1 8 0 0 4 1 1 1 1 1 7 1 1 b 1 0 q 0 0 q 1 0 2 0 1 4 0 ",
    "2 8 0 1 7 0 1 q 1 0 2 0 1 4 0 1 5 0 1 1 0 3 7 0 1 q 1 0 q 0 0 q 1 0 q 0 0 q 1 0 q 0 0 q 1 ",
    "0 q 0 0 q 1 0 q 0 0 q 1 0 q 0 0 s 1 2 p 0 0 1 i 0 p 1 0 1 i 0 6 1 0 p 0 0 1 i 0 p 1 0 1 i ",
    "0 6 1 0 p 0 0 1 i 0 p 1 0 1 i 0 6 1 0 p 0 0 1 i 0 p 1 0 1 i 0 6 1 0 p 0 0 1 i 0 p 1 0 1 i ",
    "0 6 1 0 1 0 0 1 1 2 1e 8 0 e8 l 0 1j 5 0 4 l 0 1e 5 0 8 l 0 1 5 0 e l 0 1 5 0 2 l 0 5 h f ",
    "5 5 1 f 5 uo a 1 0 1 4 0 k 1 6 6 1 5x 7 5 1 h 5 2 7 5 1 2 5 1 5 5 5 1q 3 x 1 5 34 19 4 3 ",
    "7 5 0 7 3 2 a 8 4 1 4 0 1 l 8w u 4 0 1 5 h 18 4 0 4 5 0 a 8 5 1 j cw r 4 0 1 3 0 4 5 0 a ",
    "8 km 7 4 1 4 4 1 2 4 1 f 4 1 5h 4 2 9 a 0 7 5 15 y 0 0 y 1 0 7 5 0 1 3 4 a 8 4 2 h lt 1n ",
    "a 0 1 l 0 3 a 0 1 j 0 4 a 24 19 a 0 1 l 0 f a 5e 4 4 1 r 4 1 2 4 1 1 4 2 1 4 1 a 4 1 4 4 ",
    "1 1 4 1 1 4 6 1 4 4 1 4 1 1 4 1 1 4 1 3 4 1 2 4 1 1 4 2 1 4 1 1 4 1 1 4 1 1 4 1 1 4 1 2 4 ",
    "1 1 4 2 4 4 1 7 4 1 4 4 1 4 4 1 1 4 1 a 4 1 h 4 5 3 4 1 5 4 1 h 4 1g 2 i 7i 18 l 4 2s l c ",
    "f l 2 f l 1 f l 1 11 l a d a 0 4h l 1k t l d 18 l 4 9 l 7 2 l e 6 l 4a 6z l 0 5 k 0 k8 l ",
    "4 h l 3 d l 3 3b l 4 2n l 6 c l 4 1 l f c l 4 1k l 8 a l 6 14 l 8 u l 2 2 l 26 9g l c e l ",
    "2 d l 3 9 l 7 1a l 1 7 l 8 e l 4 9 l 7 9 l 7 43 l 1 1j l 11 a 8 sm wyo 4 w 37e 4 6 66 4 2 ",
    "4g2 4 e 5rl 4 2e7 f2 4 15u 3t7 4 5 38g 4 f975 1 q u 2o q 3k 6o 5 1e6o 1eke s 2 1eke s"])

end Reshape.Category
