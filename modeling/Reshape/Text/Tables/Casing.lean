import Reshape.Text.Table

/-! How code points change between upper and lower case. -/

namespace Reshape.Casing

/-- The upper case of each code point that has another one. -/
def upper : Replacements :=
  .ofText (String.join [
    "2p 1 1t 1 1 1u 1 1 1v 1 1 1w 1 1 1x 1 1 1y 1 1 1z 1 1 20 1 1 21 1 1 22 1 1 23 1 1 24 1 1 ",
    "25 1 1 26 1 1 27 1 1 28 1 1 29 1 1 2a 1 1 2b 1 1 2c 1 1 2d 1 1 2e 1 1 2f 1 1 2g 1 1 2h 1 ",
    "1 2i 1n 1 po 16 2 2b 2b 1 1 5c 1 1 5d 1 1 5e 1 1 5f 1 1 5g 1 1 5h 1 1 5i 1 1 5j 1 1 5k 1 ",
    "1 5l 1 1 5m 1 1 5n 1 1 5o 1 1 5p 1 1 5q 1 1 5r 1 1 5s 1 1 5t 1 1 5u 1 1 5v 1 1 5w 1 1 5x ",
    "1 1 5y 2 1 60 1 1 61 1 1 62 1 1 63 1 1 64 1 1 65 1 1 66 1 1 ag 2 1 74 2 1 76 2 1 78 2 1 ",
    "7a 2 1 7c 2 1 7e 2 1 7g 2 1 7i 2 1 7k 2 1 7m 2 1 7o 2 1 7q 2 1 7s 2 1 7u 2 1 7w 2 1 7y 2 ",
    "1 80 2 1 82 2 1 84 2 1 86 2 1 88 2 1 8a 2 1 8c 2 1 8e 2 1 21 2 1 8i 2 1 8k 2 1 8m 3 1 8p ",
    "2 1 8r 2 1 8t 2 1 8v 2 1 8x 2 1 8z 2 1 91 2 1 93 1 2 jg 26 2 1 96 2 1 98 2 1 9a 2 1 9c 2 ",
    "1 9e 2 1 9g 2 1 9i 2 1 9k 2 1 9m 2 1 9o 2 1 9q 2 1 9s 2 1 9u 2 1 9w 2 1 9y 2 1 a0 2 1 a2 ",
    "2 1 a4 2 1 a6 2 1 a8 2 1 aa 2 1 ac 2 1 ae 3 1 ah 2 1 aj 2 1 al 1 1 2b 1 1 g3 3 1 aq 2 1 ",
    "as 3 1 av 4 1 az 6 1 b5 3 1 dy 4 1 bc 1 1 fx 4 1 f4 3 1 bk 2 1 bm 2 1 bo 3 1 br 5 1 bw 3 ",
    "1 bz 4 1 c3 2 1 c5 3 1 c8 4 1 cc 2 1 dz 6 1 ck 1 1 ck 2 1 cn 1 1 cn 2 1 cq 1 1 cq 2 1 ct ",
    "2 1 cv 2 1 cx 2 1 cz 2 1 d1 2 1 d3 2 1 d5 2 1 d7 1 1 b2 2 1 da 2 1 dc 2 1 de 2 1 dg 2 1 ",
    "di 2 1 dk 2 1 dm 2 1 do 2 1 dq 1 2 22 lo 2 1 dt 1 1 dt 2 1 dw 4 1 e0 2 1 e2 2 1 e4 2 1 e6 ",
    "2 1 e8 2 1 ea 2 1 ec 2 1 ee 2 1 eg 2 1 ei 2 1 ek 2 1 em 2 1 eo 2 1 eq 2 1 es 2 1 eu 2 1 ",
    "ew 2 1 ey 2 1 f0 2 1 f2 4 1 f6 2 1 f8 2 1 fa 2 1 fc 2 1 fe 2 1 fg 2 1 fi 2 1 fk 2 1 fm 9 ",
    "1 fv 3 1 8se 1 1 8sf 2 1 g1 5 1 g6 2 1 g8 2 1 ga 2 1 gc 2 1 ge 1 1 8rz 1 1 8rx 1 1 8s0 1 ",
    "1 ap 1 1 au 2 1 ax 1 1 ay 2 1 b3 2 1 b4 1 1 x4b 4 1 b7 1 1 x4c 2 1 b8 2 1 x3h 1 1 x4a 2 1 ",
    "bb 1 1 ba 1 1 x4e 1 1 8rm 1 1 x4d 3 1 bg 2 1 8ry 1 1 bh 3 1 bj 8 1 8ro 3 1 bq 2 1 x51 1 1 ",
    "bt 4 1 x4h 1 1 by 1 1 g4 1 1 c1 1 1 c2 1 1 g5 6 1 c7 b 1 x4i 1 1 x4g 4n 1 pl 18 1 og 2 1 ",
    "oi 4 1 om 4 1 sd 1 1 se 1 1 sf j 3 pl lk ld s 1 p2 1 1 p4 1 1 p5 1 1 p6 1 3 px lk ld 1 1 ",
    "pd 1 1 pe 1 1 pf 1 1 pg 1 1 ph 1 1 pi 1 1 pj 1 1 pk 1 1 pl 1 1 pm 1 1 pn 1 1 po 1 1 pp 1 ",
    "1 pq 1 1 pr 1 1 ps 1 1 pt 1 1 pv 1 1 pv 1 1 pw 1 1 px 1 1 py 1 1 pz 1 1 q0 1 1 q1 1 1 q2 ",
    "1 1 q3 1 1 p8 1 1 pa 1 1 pb 2 1 pe 1 1 pk 4 1 py 1 1 ps 1 1 r3 2 1 rc 2 1 re 2 1 rg 2 1 ",
    "ri 2 1 rk 2 1 rm 2 1 ro 2 1 rq 2 1 rs 2 1 ru 2 1 rw 2 1 ry 1 1 pm 1 1 pt 1 1 s9 1 1 ov 2 ",
    "1 ph 3 1 s7 3 1 sa 1h 1 sw 1 1 sx 1 1 sy 1 1 sz 1 1 t0 1 1 t1 1 1 t2 1 1 t3 1 1 t4 1 1 t5 ",
    "1 1 t6 1 1 t7 1 1 t8 1 1 t9 1 1 ta 1 1 tb 1 1 tc 1 1 td 1 1 te 1 1 tf 1 1 tg 1 1 th 1 1 ",
    "ti 1 1 tj 1 1 tk 1 1 tl 1 1 tm 1 1 tn 1 1 to 1 1 tp 1 1 tq 1 1 tr 1 1 sg 1 1 sh 1 1 si 1 ",
    "1 sj 1 1 sk 1 1 sl 1 1 sm 1 1 sn 1 1 so 1 1 sp 1 1 sq 1 1 sr 1 1 ss 1 1 st 1 1 su 1 1 sv ",
    "2 1 v4 2 1 v6 2 1 v8 2 1 va 2 1 vc 2 1 ve 2 1 vg 2 1 vi 2 1 vk 2 1 vm 2 1 vo 2 1 vq 2 1 ",
    "vs 2 1 vu 2 1 vw 2 1 vy 2 1 w0 a 1 wa 2 1 wc 2 1 we 2 1 wg 2 1 wi 2 1 wk 2 1 wm 2 1 wo 2 ",
    "1 wq 2 1 ws 2 1 wu 2 1 ww 2 1 wy 2 1 x0 2 1 x2 2 1 x4 2 1 x6 2 1 x8 2 1 xa 2 1 xc 2 1 xe ",
    "2 1 xg 2 1 xi 2 1 xk 2 1 xm 2 1 xo 2 1 xq 3 1 xt 2 1 xv 2 1 xx 2 1 xz 2 1 y1 2 1 y3 2 1 ",
    "y5 1 1 xs 2 1 y8 2 1 ya 2 1 yc 2 1 ye 2 1 yg 2 1 yi 2 1 yk 2 1 ym 2 1 yo 2 1 yq 2 1 ys 2 ",
    "1 yu 2 1 yw 2 1 yy 2 1 z0 2 1 z2 2 1 z4 2 1 z6 2 1 z8 2 1 za 2 1 zc 2 1 ze 2 1 zg 2 1 zi ",
    "2 1 zk 2 1 zm 2 1 zo 2 1 zq 2 1 zs 2 1 zu 2 1 zw 2 1 zy 2 1 100 2 1 102 2 1 104 2 1 106 2 ",
    "1 108 2 1 10a 2 1 10c 2 1 10e 2 1 10g 2 1 10i 2 1 10k 2 1 10m 2 1 10o 2 1 10q 2 1 10s 2 1 ",
    "10u 1e 1 10x 1 1 10y 1 1 10z 1 1 110 1 1 111 1 1 112 1 1 113 1 1 114 1 1 115 1 1 116 1 1 ",
    "117 1 1 118 1 1 119 1 1 11a 1 1 11b 1 1 11c 1 1 11d 1 1 11e 1 1 11f 1 1 11g 1 1 11h 1 1 ",
    "11i 1 1 11j 1 1 11k 1 1 11l 1 1 11m 1 1 11n 1 1 11o 1 1 11p 1 1 11q 1 1 11r 1 1 11s 1 1 ",
    "11t 1 1 11u 1 1 11v 1 1 11w 1 1 11x 1 1 11y 1 2 111 11u 289 1 5n4 1 1 5n5 1 1 5n6 1 1 5n7 ",
    "1 1 5n8 1 1 5n9 1 1 5na 1 1 5nb 1 1 5nc 1 1 5nd 1 1 5ne 1 1 5nf 1 1 5ng 1 1 5nh 1 1 5ni 1 ",
    "1 5nj 1 1 5nk 1 1 5nl 1 1 5nm 1 1 5nn 1 1 5no 1 1 5np 1 1 5nq 1 1 5nr 1 1 5ns 1 1 5nt 1 1 ",
    "5nu 1 1 5nv 1 1 5nw 1 1 5nx 1 1 5ny 1 1 5nz 1 1 5o0 1 1 5o1 1 1 5o2 1 1 5o3 1 1 5o4 1 1 ",
    "5o5 1 1 5o6 1 1 5o7 1 1 5o8 1 1 5o9 1 1 5oa 3 1 5od 1 1 5oe 1 1 5of l5 1 3xs 1 1 3xt 1 1 ",
    "3xu 1 1 3xv 1 1 3xw 1 1 3xx 1oj 1 sy 1 1 t0 1 1 ta 1 1 td 1 1 te 1 1 te 1 1 tm 1 1 v6 1 1 ",
    "wui 6p 1 x31 4 1 8rn h 1 x52 37 1 5xc 2 1 5xe 2 1 5xg 2 1 5xi 2 1 5xk 2 1 5xm 2 1 5xo 2 1 ",
    "5xq 2 1 5xs 2 1 5xu 2 1 5xw 2 1 5xy 2 1 5y0 2 1 5y2 2 1 5y4 2 1 5y6 2 1 5y8 2 1 5ya 2 1 ",
    "5yc 2 1 5ye 2 1 5yg 2 1 5yi 2 1 5yk 2 1 5ym 2 1 5yo 2 1 5yq 2 1 5ys 2 1 5yu 2 1 5yw 2 1 ",
    "5yy 2 1 5z0 2 1 5z2 2 1 5z4 2 1 5z6 2 1 5z8 2 1 5za 2 1 5zc 2 1 5ze 2 1 5zg 2 1 5zi 2 1 ",
    "5zk 2 1 5zm 2 1 5zo 2 1 5zq 2 1 5zs 2 1 5zu 2 1 5zw 2 1 5zy 2 1 600 2 1 602 2 1 604 2 1 ",
    "606 2 1 608 2 1 60a 2 1 60c 2 1 60e 2 1 60g 2 1 60i 2 1 60k 2 1 60m 2 1 60o 2 1 60q 2 1 ",
    "60s 2 1 60u 2 1 60w 2 1 60y 2 1 610 2 1 612 2 1 614 2 1 616 2 1 618 2 1 61a 2 1 61c 2 1 ",
    "61e 2 1 61g 1 2 20 mp 1 2 2c lk 1 2 2f lm 1 2 2h lm 1 2 1t ji 1 1 600 6 1 61s 2 1 61u 2 1 ",
    "61w 2 1 61y 2 1 620 2 1 622 2 1 624 2 1 626 2 1 628 2 1 62a 2 1 62c 2 1 62e 2 1 62g 2 1 ",
    "62i 2 1 62k 2 1 62m 2 1 62o 2 1 62q 2 1 62s 2 1 62u 2 1 62w 2 1 62y 2 1 630 2 1 632 2 1 ",
    "634 2 1 636 2 1 638 2 1 63a 2 1 63c 2 1 63e 2 1 63g 2 1 63i 2 1 63k 2 1 63m 2 1 63o 2 1 ",
    "63q 2 1 63s 2 1 63u 2 1 63w 2 1 63y 2 1 640 2 1 642 2 1 644 2 1 646 2 1 648 2 1 64a 2 1 ",
    "64c 2 1 64e 1 1 64o 1 1 64p 1 1 64q 1 1 64r 1 1 64s 1 1 64t 1 1 64u 1 1 64v 9 1 654 1 1 ",
    "655 1 1 656 1 1 657 1 1 658 1 1 659 b 1 65k 1 1 65l 1 1 65m 1 1 65n 1 1 65o 1 1 65p 1 1 ",
    "65q 1 1 65r 9 1 660 1 1 661 1 1 662 1 1 663 1 1 664 1 1 665 1 1 666 1 1 667 9 1 66g 1 1 ",
    "66h 1 1 66i 1 1 66j 1 1 66k 1 1 66l b 2 px lv 1 1 66x 1 3 px lv lc 1 1 66z 1 3 px lv ld 1 ",
    "1 671 1 3 px lv n6 1 1 673 9 1 67c 1 1 67d 1 1 67e 1 1 67f 1 1 67g 1 1 67h 1 1 67i 1 1 ",
    "67j 9 1 69m 1 1 69n 1 1 6a0 1 1 6a1 1 1 6a2 1 1 6a3 1 1 6ai 1 1 6aj 1 1 6bc 1 1 6bd 1 1 ",
    "6ay 1 1 6az 1 1 6be 1 1 6bf 3 2 64o pl 1 2 64p pl 1 2 64q pl 1 2 64r pl 1 2 64s pl 1 2 ",
    "64t pl 1 2 64u pl 1 2 64v pl 1 2 64o pl 1 2 64p pl 1 2 64q pl 1 2 64r pl 1 2 64s pl 1 2 ",
    "64t pl 1 2 64u pl 1 2 64v pl 1 2 65k pl 1 2 65l pl 1 2 65m pl 1 2 65n pl 1 2 65o pl 1 2 ",
    "65p pl 1 2 65q pl 1 2 65r pl 1 2 65k pl 1 2 65l pl 1 2 65m pl 1 2 65n pl 1 2 65o pl 1 2 ",
    "65p pl 1 2 65q pl 1 2 65r pl 1 2 67c pl 1 2 67d pl 1 2 67e pl 1 2 67f pl 1 2 67g pl 1 2 ",
    "67h pl 1 2 67i pl 1 2 67j pl 1 2 67c pl 1 2 67d pl 1 2 67e pl 1 2 67f pl 1 2 67g pl 1 2 ",
    "67h pl 1 2 67i pl 1 2 67j pl 1 1 69k 1 1 69l 1 2 69m pl 1 2 pd pl 1 2 p2 pl 2 2 pd n6 1 3 ",
    "pd n6 pl 5 2 pd pl 2 1 pl 4 2 6a2 pl 1 2 pj pl 1 2 p5 pl 2 2 pj n6 1 3 pj n6 pl 5 2 pj pl ",
    "4 1 6ag 1 1 6ah 1 3 pl lk lc 1 3 pl lk ld 3 2 pl n6 1 3 pl lk n6 9 1 6aw 1 1 6ax 1 3 px ",
    "lk lc 1 3 px lk ld 1 2 pt lv 1 1 6b0 1 2 px n6 1 3 px lk n6 b 2 6be pl 1 2 q1 pl 1 2 pb ",
    "pl 2 2 q1 n6 1 3 q1 n6 pl 5 2 q1 pl 9e 1 6k2 y 1 6lc 1 1 6ld 1 1 6le 1 1 6lf 1 1 6lg 1 1 ",
    "6lh 1 1 6li 1 1 6lj 1 1 6lk 1 1 6ll 1 1 6lm 1 1 6ln 1 1 6lo 1 1 6lp 1 1 6lq 1 1 6lr 5 1 ",
    "6mb ng 1 792 1 1 793 1 1 794 1 1 795 1 1 796 1 1 797 1 1 798 1 1 799 1 1 79a 1 1 79b 1 1 ",
    "79c 1 1 79d 1 1 79e 1 1 79f 1 1 79g 1 1 79h 1 1 79i 1 1 79j 1 1 79k 1 1 79l 1 1 79m 1 1 ",
    "79n 1 1 79o 1 1 79p 1 1 79q 1 1 79r 1fr 1 8ow 1 1 8ox 1 1 8oy 1 1 8oz 1 1 8p0 1 1 8p1 1 1 ",
    "8p2 1 1 8p3 1 1 8p4 1 1 8p5 1 1 8p6 1 1 8p7 1 1 8p8 1 1 8p9 1 1 8pa 1 1 8pb 1 1 8pc 1 1 ",
    "8pd 1 1 8pe 1 1 8pf 1 1 8pg 1 1 8ph 1 1 8pi 1 1 8pj 1 1 8pk 1 1 8pl 1 1 8pm 1 1 8pn 1 1 ",
    "8po 1 1 8pp 1 1 8pq 1 1 8pr 1 1 8ps 1 1 8pt 1 1 8pu 1 1 8pv 1 1 8pw 1 1 8px 1 1 8py 1 1 ",
    "8pz 1 1 8q0 1 1 8q1 1 1 8q2 1 1 8q3 1 1 8q4 1 1 8q5 1 1 8q6 1 1 8q7 2 1 8rk 4 1 fu 1 1 fy ",
    "2 1 8rr 2 1 8rt 2 1 8rv 7 1 8s2 3 1 8s5 b 1 8sg 2 1 8si 2 1 8sk 2 1 8sm 2 1 8so 2 1 8sq 2 ",
    "1 8ss 2 1 8su 2 1 8sw 2 1 8sy 2 1 8t0 2 1 8t2 2 1 8t4 2 1 8t6 2 1 8t8 2 1 8ta 2 1 8tc 2 1 ",
    "8te 2 1 8tg 2 1 8ti 2 1 8tk 2 1 8tm 2 1 8to 2 1 8tq 2 1 8ts 2 1 8tu 2 1 8tw 2 1 8ty 2 1 ",
    "8u0 2 1 8u2 2 1 8u4 2 1 8u6 2 1 8u8 2 1 8ua 2 1 8uc 2 1 8ue 2 1 8ug 2 1 8ui 2 1 8uk 2 1 ",
    "8um 2 1 8uo 2 1 8uq 2 1 8us 2 1 8uu 2 1 8uw 2 1 8uy 2 1 8v0 2 1 8v2 2 1 8v4 2 1 8v6 9 1 ",
    "8vf 2 1 8vh 5 1 8vm d 1 3a8 1 1 3a9 1 1 3aa 1 1 3ab 1 1 3ac 1 1 3ad 1 1 3ae 1 1 3af 1 1 ",
    "3ag 1 1 3ah 1 1 3ai 1 1 3aj 1 1 3ak 1 1 3al 1 1 3am 1 1 3an 1 1 3ao 1 1 3ap 1 1 3aq 1 1 ",
    "3ar 1 1 3as 1 1 3at 1 1 3au 1 1 3av 1 1 3aw 1 1 3ax 1 1 3ay 1 1 3az 1 1 3b0 1 1 3b1 1 1 ",
    "3b2 1 1 3b3 1 1 3b4 1 1 3b5 1 1 3b6 1 1 3b7 1 1 3b8 1 1 3b9 2 1 3bb 6 1 3bh nx0 1 wu8 2 1 ",
    "wua 2 1 wuc 2 1 wue 2 1 wug 2 1 wui 2 1 wuk 2 1 wum 2 1 wuo 2 1 wuq 2 1 wus 2 1 wuu 2 1 ",
    "wuw 2 1 wuy 2 1 wv0 2 1 wv2 2 1 wv4 2 1 wv6 2 1 wv8 2 1 wva 2 1 wvc 2 1 wve 2 1 wvg k 1 ",
    "ww0 2 1 ww2 2 1 ww4 2 1 ww6 2 1 ww8 2 1 wwa 2 1 wwc 2 1 wwe 2 1 wwg 2 1 wwi 2 1 wwk 2 1 ",
    "wwm 2 1 wwo 2 1 wwq 3s 1 x0i 2 1 x0k 2 1 x0m 2 1 x0o 2 1 x0q 2 1 x0s 2 1 x0u 4 1 x0y 2 1 ",
    "x10 2 1 x12 2 1 x14 2 1 x16 2 1 x18 2 1 x1a 2 1 x1c 2 1 x1e 2 1 x1g 2 1 x1i 2 1 x1k 2 1 ",
    "x1m 2 1 x1o 2 1 x1q 2 1 x1s 2 1 x1u 2 1 x1w 2 1 x1y 2 1 x20 2 1 x22 2 1 x24 2 1 x26 2 1 ",
    "x28 2 1 x2a 2 1 x2c 2 1 x2e 2 1 x2g 2 1 x2i 2 1 x2k 2 1 x2m b 1 x2x 2 1 x2z 3 1 x32 2 1 ",
    "x34 2 1 x36 2 1 x38 2 1 x3a 5 1 x3f 5 1 x3k 2 1 x3m 1 1 x50 3 1 x3q 2 1 x3s 2 1 x3u 2 1 ",
    "x3w 2 1 x3y 2 1 x40 2 1 x42 2 1 x44 2 1 x46 2 1 x48 c 1 x4k 2 1 x4m 2 1 x4o 2 1 x4q 2 1 ",
    "x4s 2 1 x4u 2 1 x4w 2 1 x4y 5 1 x53 2 1 x55 7 1 x5c 6 1 x5i 2 1 x5k t 1 x6d nx 1 x4j t 1 ",
    "3vk 1 1 3vl 1 1 3vm 1 1 3vn 1 1 3vo 1 1 3vp 1 1 3vq 1 1 3vr 1 1 3vs 1 1 3vt 1 1 3vu 1 1 ",
    "3vv 1 1 3vw 1 1 3vx 1 1 3vy 1 1 3vz 1 1 3w0 1 1 3w1 1 1 3w2 1 1 3w3 1 1 3w4 1 1 3w5 1 1 ",
    "3w6 1 1 3w7 1 1 3w8 1 1 3w9 1 1 3wa 1 1 3wb 1 1 3wc 1 1 3wd 1 1 3we 1 1 3wf 1 1 3wg 1 1 ",
    "3wh 1 1 3wi 1 1 3wj 1 1 3wk 1 1 3wl 1 1 3wm 1 1 3wn 1 1 3wo 1 1 3wp 1 1 3wq 1 1 3wr 1 1 ",
    "3ws 1 1 3wt 1 1 3wu 1 1 3wv 1 1 3ww 1 1 3wx 1 1 3wy 1 1 3wz 1 1 3x0 1 1 3x1 1 1 3x2 1 1 ",
    "3x3 1 1 3x4 1 1 3x5 1 1 3x6 1 1 3x7 1 1 3x8 1 1 3x9 1 1 3xa 1 1 3xb 1 1 3xc 1 1 3xd 1 1 ",
    "3xe 1 1 3xf 1 1 3xg 1 1 3xh 1 1 3xi 1 1 3xj 1 1 3xk 1 1 3xl 1 1 3xm 1 1 3xn 1 1 3xo 1 1 ",
    "3xp 1 1 3xq 1 1 3xr fnl 2 1y 1y 1 2 1y 21 1 2 1y 24 1 3 1y 1y 21 1 3 1y 1y 24 1 2 2b 2c 1 ",
    "2 2b 2c d 2 11g 11i 1 2 11g 111 1 2 11g 117 1 2 11q 11i 1 2 11g 119 tm 1 1ee9 1 1 1eea 1 ",
    "1 1eeb 1 1 1eec 1 1 1eed 1 1 1eee 1 1 1eef 1 1 1eeg 1 1 1eeh 1 1 1eei 1 1 1eej 1 1 1eek 1 ",
    "1 1eel 1 1 1eem 1 1 1een 1 1 1eeo 1 1 1eep 1 1 1eeq 1 1 1eer 1 1 1ees 1 1 1eet 1 1 1eeu 1 ",
    "1 1eev 1 1 1eew 1 1 1eex 1 1 1eey y6 1 1fcw 1 1 1fcx 1 1 1fcy 1 1 1fcz 1 1 1fd0 1 1 1fd1 ",
    "1 1 1fd2 1 1 1fd3 1 1 1fd4 1 1 1fd5 1 1 1fd6 1 1 1fd7 1 1 1fd8 1 1 1fd9 1 1 1fda 1 1 1fdb ",
    "1 1 1fdc 1 1 1fdd 1 1 1fde 1 1 1fdf 1 1 1fdg 1 1 1fdh 1 1 1fdi 1 1 1fdj 1 1 1fdk 1 1 1fdl ",
    "1 1 1fdm 1 1 1fdn 1 1 1fdo 1 1 1fdp 1 1 1fdq 1 1 1fdr 1 1 1fds 1 1 1fdt 1 1 1fdu 1 1 1fdv ",
    "1 1 1fdw 1 1 1fdx 1 1 1fdy 1 1 1fdz 3t 1 1fhs 1 1 1fht 1 1 1fhu 1 1 1fhv 1 1 1fhw 1 1 ",
    "1fhx 1 1 1fhy 1 1 1fhz 1 1 1fi0 1 1 1fi1 1 1 1fi2 1 1 1fi3 1 1 1fi4 1 1 1fi5 1 1 1fi6 1 1 ",
    "1fi7 1 1 1fi8 1 1 1fi9 1 1 1fia 1 1 1fib 1 1 1fic 1 1 1fid 1 1 1fie 1 1 1fif 1 1 1fig 1 1 ",
    "1fih 1 1 1fii 1 1 1fij 1 1 1fik 1 1 1fil 1 1 1fim 1 1 1fin 1 1 1fio 1 1 1fip 1 1 1fiq 1 1 ",
    "1fir 4c 1 1fn4 1 1 1fn5 1 1 1fn6 1 1 1fn7 1 1 1fn8 1 1 1fn9 1 1 1fna 1 1 1fnb 1 1 1fnc 1 ",
    "1 1fnd 1 1 1fne 2 1 1fng 1 1 1fnh 1 1 1fni 1 1 1fnj 1 1 1fnk 1 1 1fnl 1 1 1fnm 1 1 1fnn 1 ",
    "1 1fno 1 1 1fnp 1 1 1fnq 1 1 1fnr 1 1 1fns 1 1 1fnt 1 1 1fnu 2 1 1fnw 1 1 1fnx 1 1 1fny 1 ",
    "1 1fnz 1 1 1fo0 1 1 1fo1 1 1 1fo2 2 1 1fo4 1 1 1fo5 1dw 1 1h1c 1 1 1h1d 1 1 1h1e 1 1 1h1f ",
    "1 1 1h1g 1 1 1h1h 1 1 1h1i 1 1 1h1j 1 1 1h1k 1 1 1h1l 1 1 1h1m 1 1 1h1n 1 1 1h1o 1 1 1h1p ",
    "1 1 1h1q 1 1 1h1r 1 1 1h1s 1 1 1h1t 1 1 1h1u 1 1 1h1v 1 1 1h1w 1 1 1h1x 1 1 1h1y 1 1 1h1z ",
    "1 1 1h20 1 1 1h21 1 1 1h22 1 1 1h23 1 1 1h24 1 1 1h25 1 1 1h26 1 1 1h27 1 1 1h28 1 1 1h29 ",
    "1 1 1h2a 1 1 1h2b 1 1 1h2c 1 1 1h2d 1 1 1h2e 1 1 1h2f 1 1 1h2g 1 1 1h2h 1 1 1h2i 1 1 1h2j ",
    "1 1 1h2k 1 1 1h2l 1 1 1h2m 1 1 1h2n 1 1 1h2o 1 1 1h2p 1 1 1h2q 2by 1 1jfk 1 1 1jfl 1 1 ",
    "1jfm 1 1 1jfn 1 1 1jfo 1 1 1jfp 1 1 1jfq 1 1 1jfr 1 1 1jfs 1 1 1jft 1 1 1jfu 1 1 1jfv 1 1 ",
    "1jfw 1 1 1jfx 1 1 1jfy 1 1 1jfz 1 1 1jg0 1 1 1jg1 1 1 1jg2 1 1 1jg3 1 1 1jg4 1 1 1jg5 1 1 ",
    "1jg6 1 1 1jg7 1 1 1jg8 1 1 1jg9 1 1 1jga 1 1 1jgb 1 1 1jgc 1 1 1jgd 1 1 1jge 1 1 1jgf gw1 ",
    "1 20cg 1 1 20ch 1 1 20ci 1 1 20cj 1 1 20ck 1 1 20cl 1 1 20cm 1 1 20cn 1 1 20co 1 1 20cp 1 ",
    "1 20cq 1 1 20cr 1 1 20cs 1 1 20ct 1 1 20cu 1 1 20cv 1 1 20cw 1 1 20cx 1 1 20cy 1 1 20cz 1 ",
    "1 20d0 1 1 20d1 1 1 20d2 1 1 20d3 1 1 20d4 1 1 20d5 1 1 20d6 1 1 20d7 1 1 20d8 1 1 20d9 1 ",
    "1 20da 1 1 20db o83 1 2olc 1 1 2old 1 1 2ole 1 1 2olf 1 1 2olg 1 1 2olh 1 1 2oli 1 1 2olj ",
    "1 1 2olk 1 1 2oll 1 1 2olm 1 1 2oln 1 1 2olo 1 1 2olp 1 1 2olq 1 1 2olr 1 1 2ols 1 1 2olt ",
    "1 1 2olu 1 1 2olv 1 1 2olw 1 1 2olx 1 1 2oly 1 1 2olz 1 1 2om0 1 1 2om1 1 1 2om2 1 1 2om3 ",
    "1 1 2om4 1 1 2om5 1 1 2om6 1 1 2om7 1 1 2om8 1 1 2om9"])

/-- The lower case of each code point that has another one. -/
def lower : Replacements :=
  .ofText (String.join [
    "1t 1 2p 1 1 2q 1 1 2r 1 1 2s 1 1 2t 1 1 2u 1 1 2v 1 1 2w 1 1 2x 1 1 2y 1 1 2z 1 1 30 1 1 ",
    "31 1 1 32 1 1 33 1 1 34 1 1 35 1 1 36 1 1 37 1 1 38 1 1 39 1 1 3a 1 1 3b 1 1 3c 1 1 3d 1 ",
    "1 3e 2u 1 68 1 1 69 1 1 6a 1 1 6b 1 1 6c 1 1 6d 1 1 6e 1 1 6f 1 1 6g 1 1 6h 1 1 6i 1 1 6j ",
    "1 1 6k 1 1 6l 1 1 6m 1 1 6n 1 1 6o 1 1 6p 1 1 6q 1 1 6r 1 1 6s 1 1 6t 1 1 6u 2 1 6w 1 1 ",
    "6x 1 1 6y 1 1 6z 1 1 70 1 1 71 1 1 72 y 1 75 2 1 77 2 1 79 2 1 7b 2 1 7d 2 1 7f 2 1 7h 2 ",
    "1 7j 2 1 7l 2 1 7n 2 1 7p 2 1 7r 2 1 7t 2 1 7v 2 1 7x 2 1 7z 2 1 81 2 1 83 2 1 85 2 1 87 ",
    "2 1 89 2 1 8b 2 1 8d 2 1 8f 2 2 2x lj 2 1 8j 2 1 8l 2 1 8n 3 1 8q 2 1 8s 2 1 8u 2 1 8w 2 ",
    "1 8y 2 1 90 2 1 92 2 1 94 3 1 97 2 1 99 2 1 9b 2 1 9d 2 1 9f 2 1 9h 2 1 9j 2 1 9l 2 1 9n ",
    "2 1 9p 2 1 9r 2 1 9t 2 1 9v 2 1 9x 2 1 9z 2 1 a1 2 1 a3 2 1 a5 2 1 a7 2 1 a9 2 1 ab 2 1 ",
    "ad 2 1 af 2 1 73 1 1 ai 2 1 ak 2 1 am 4 1 gj 1 1 ar 2 1 at 2 1 gk 1 1 aw 2 1 gm 1 1 gn 1 ",
    "1 b0 3 1 d9 1 1 gp 1 1 gr 1 1 b6 2 1 gw 1 1 gz 2 1 h5 1 1 h4 1 1 bd 4 1 hb 1 1 he 2 1 hh ",
    "1 1 bl 2 1 bn 2 1 bp 2 1 hs 1 1 bs 2 1 hv 3 1 bx 2 1 i0 1 1 c0 2 1 i2 1 1 i3 1 1 c4 2 1 ",
    "c6 2 1 ia 1 1 c9 4 1 cd 8 1 cm 1 1 cm 2 1 cp 1 1 cp 2 1 cs 1 1 cs 2 1 cu 2 1 cw 2 1 cy 2 ",
    "1 d0 2 1 d2 2 1 d4 2 1 d6 2 1 d8 3 1 db 2 1 dd 2 1 df 2 1 dh 2 1 dj 2 1 dl 2 1 dn 2 1 dp ",
    "2 1 dr 3 1 dv 1 1 dv 2 1 dx 2 1 b9 1 1 cf 1 1 e1 2 1 e3 2 1 e5 2 1 e7 2 1 e9 2 1 eb 2 1 ",
    "ed 2 1 ef 2 1 eh 2 1 ej 2 1 el 2 1 en 2 1 ep 2 1 er 2 1 et 2 1 ev 2 1 ex 2 1 ez 2 1 f1 2 ",
    "1 f3 2 1 bi 2 1 f7 2 1 f9 2 1 fb 2 1 fd 2 1 ff 2 1 fh 2 1 fj 2 1 fl 2 1 fn 8 1 8rp 1 1 fw ",
    "2 1 be 1 1 8rq 3 1 g2 2 1 ao 1 1 i1 1 1 i4 1 1 g7 2 1 g9 2 1 gb 2 1 gd 2 1 gf 82 1 oh 2 1 ",
    "oj 4 1 on 9 1 s3 7 1 q4 2 1 q5 1 1 q6 1 1 q7 2 1 r0 2 1 r1 1 1 r2 2 1 q9 1 1 qa 1 1 qb 1 ",
    "1 qc 1 1 qd 1 1 qe 1 1 qf 1 1 qg 1 1 qh 1 1 qi 1 1 qj 1 1 qk 1 1 ql 1 1 qm 1 1 qn 1 1 qo ",
    "1 1 qp 2 1 qr 1 1 qs 1 1 qt 1 1 qu 1 1 qv 1 1 qw 1 1 qx 1 1 qy 1 1 qz 10 1 rb 9 1 rd 2 1 ",
    "rf 2 1 rh 2 1 rj 2 1 rl 2 1 rn 2 1 rp 2 1 rr 2 1 rt 2 1 rv 2 1 rx 2 1 rz 6 1 qg 3 1 s8 2 ",
    "1 s2 1 1 sb 3 1 or 1 1 os 1 1 ot 1 1 uo 1 1 up 1 1 uq 1 1 ur 1 1 us 1 1 ut 1 1 uu 1 1 uv ",
    "1 1 uw 1 1 ux 1 1 uy 1 1 uz 1 1 v0 1 1 v1 1 1 v2 1 1 v3 1 1 ts 1 1 tt 1 1 tu 1 1 tv 1 1 ",
    "tw 1 1 tx 1 1 ty 1 1 tz 1 1 u0 1 1 u1 1 1 u2 1 1 u3 1 1 u4 1 1 u5 1 1 u6 1 1 u7 1 1 u8 1 ",
    "1 u9 1 1 ua 1 1 ub 1 1 uc 1 1 ud 1 1 ue 1 1 uf 1 1 ug 1 1 uh 1 1 ui 1 1 uj 1 1 uk 1 1 ul ",
    "1 1 um 1 1 un 1d 1 v5 2 1 v7 2 1 v9 2 1 vb 2 1 vd 2 1 vf 2 1 vh 2 1 vj 2 1 vl 2 1 vn 2 1 ",
    "vp 2 1 vr 2 1 vt 2 1 vv 2 1 vx 2 1 vz 2 1 w1 a 1 wb 2 1 wd 2 1 wf 2 1 wh 2 1 wj 2 1 wl 2 ",
    "1 wn 2 1 wp 2 1 wr 2 1 wt 2 1 wv 2 1 wx 2 1 wz 2 1 x1 2 1 x3 2 1 x5 2 1 x7 2 1 x9 2 1 xb ",
    "2 1 xd 2 1 xf 2 1 xh 2 1 xj 2 1 xl 2 1 xn 2 1 xp 2 1 xr 2 1 y7 1 1 xu 2 1 xw 2 1 xy 2 1 ",
    "y0 2 1 y2 2 1 y4 2 1 y6 3 1 y9 2 1 yb 2 1 yd 2 1 yf 2 1 yh 2 1 yj 2 1 yl 2 1 yn 2 1 yp 2 ",
    "1 yr 2 1 yt 2 1 yv 2 1 yx 2 1 yz 2 1 z1 2 1 z3 2 1 z5 2 1 z7 2 1 z9 2 1 zb 2 1 zd 2 1 zf ",
    "2 1 zh 2 1 zj 2 1 zl 2 1 zn 2 1 zp 2 1 zr 2 1 zt 2 1 zv 2 1 zx 2 1 zz 2 1 101 2 1 103 2 1 ",
    "105 2 1 107 2 1 109 2 1 10b 2 1 10d 2 1 10f 2 1 10h 2 1 10j 2 1 10l 2 1 10n 2 1 10p 2 1 ",
    "10r 2 1 10t 2 1 10v 3 1 129 1 1 12a 1 1 12b 1 1 12c 1 1 12d 1 1 12e 1 1 12f 1 1 12g 1 1 ",
    "12h 1 1 12i 1 1 12j 1 1 12k 1 1 12l 1 1 12m 1 1 12n 1 1 12o 1 1 12p 1 1 12q 1 1 12r 1 1 ",
    "12s 1 1 12t 1 1 12u 1 1 12v 1 1 12w 1 1 12x 1 1 12y 1 1 12z 1 1 130 1 1 131 1 1 132 1 1 ",
    "133 1 1 134 1 1 135 1 1 136 1 1 137 1 1 138 1 1 139 1 1 13a 28a 1 8w0 1 1 8w1 1 1 8w2 1 1 ",
    "8w3 1 1 8w4 1 1 8w5 1 1 8w6 1 1 8w7 1 1 8w8 1 1 8w9 1 1 8wa 1 1 8wb 1 1 8wc 1 1 8wd 1 1 ",
    "8we 1 1 8wf 1 1 8wg 1 1 8wh 1 1 8wi 1 1 8wj 1 1 8wk 1 1 8wl 1 1 8wm 1 1 8wn 1 1 8wo 1 1 ",
    "8wp 1 1 8wq 1 1 8wr 1 1 8ws 1 1 8wt 1 1 8wu 1 1 8wv 1 1 8ww 1 1 8wx 1 1 8wy 1 1 8wz 1 1 ",
    "8x0 1 1 8x1 2 1 8x3 6 1 8x9 k3 1 xv4 1 1 xv5 1 1 xv6 1 1 xv7 1 1 xv8 1 1 xv9 1 1 xva 1 1 ",
    "xvb 1 1 xvc 1 1 xvd 1 1 xve 1 1 xvf 1 1 xvg 1 1 xvh 1 1 xvi 1 1 xvj 1 1 xvk 1 1 xvl 1 1 ",
    "xvm 1 1 xvn 1 1 xvo 1 1 xvp 1 1 xvq 1 1 xvr 1 1 xvs 1 1 xvt 1 1 xvu 1 1 xvv 1 1 xvw 1 1 ",
    "xvx 1 1 xvy 1 1 xvz 1 1 xw0 1 1 xw1 1 1 xw2 1 1 xw3 1 1 xw4 1 1 xw5 1 1 xw6 1 1 xw7 1 1 ",
    "xw8 1 1 xw9 1 1 xwa 1 1 xwb 1 1 xwc 1 1 xwd 1 1 xwe 1 1 xwf 1 1 xwg 1 1 xwh 1 1 xwi 1 1 ",
    "xwj 1 1 xwk 1 1 xwl 1 1 xwm 1 1 xwn 1 1 xwo 1 1 xwp 1 1 xwq 1 1 xwr 1 1 xws 1 1 xwt 1 1 ",
    "xwu 1 1 xwv 1 1 xww 1 1 xwx 1 1 xwy 1 1 xwz 1 1 xx0 1 1 xx1 1 1 xx2 1 1 xx3 1 1 xx4 1 1 ",
    "xx5 1 1 xx6 1 1 xx7 1 1 xx8 1 1 xx9 1 1 xxa 1 1 xxb 1 1 3y0 1 1 3y1 1 1 3y2 1 1 3y3 1 1 ",
    "3y4 1 1 3y5 1p7 1 3bk 1 1 3bl 1 1 3bm 1 1 3bn 1 1 3bo 1 1 3bp 1 1 3bq 1 1 3br 1 1 3bs 1 1 ",
    "3bt 1 1 3bu 1 1 3bv 1 1 3bw 1 1 3bx 1 1 3by 1 1 3bz 1 1 3c0 1 1 3c1 1 1 3c2 1 1 3c3 1 1 ",
    "3c4 1 1 3c5 1 1 3c6 1 1 3c7 1 1 3c8 1 1 3c9 1 1 3ca 1 1 3cb 1 1 3cc 1 1 3cd 1 1 3ce 1 1 ",
    "3cf 1 1 3cg 1 1 3ch 1 1 3ci 1 1 3cj 1 1 3ck 1 1 3cl 1 1 3cm 1 1 3cn 1 1 3co 1 1 3cp 1 1 ",
    "3cq 3 1 3ct 1 1 3cu 1 1 3cv 8x 1 5xd 2 1 5xf 2 1 5xh 2 1 5xj 2 1 5xl 2 1 5xn 2 1 5xp 2 1 ",
    "5xr 2 1 5xt 2 1 5xv 2 1 5xx 2 1 5xz 2 1 5y1 2 1 5y3 2 1 5y5 2 1 5y7 2 1 5y9 2 1 5yb 2 1 ",
    "5yd 2 1 5yf 2 1 5yh 2 1 5yj 2 1 5yl 2 1 5yn 2 1 5yp 2 1 5yr 2 1 5yt 2 1 5yv 2 1 5yx 2 1 ",
    "5yz 2 1 5z1 2 1 5z3 2 1 5z5 2 1 5z7 2 1 5z9 2 1 5zb 2 1 5zd 2 1 5zf 2 1 5zh 2 1 5zj 2 1 ",
    "5zl 2 1 5zn 2 1 5zp 2 1 5zr 2 1 5zt 2 1 5zv 2 1 5zx 2 1 5zz 2 1 601 2 1 603 2 1 605 2 1 ",
    "607 2 1 609 2 1 60b 2 1 60d 2 1 60f 2 1 60h 2 1 60j 2 1 60l 2 1 60n 2 1 60p 2 1 60r 2 1 ",
    "60t 2 1 60v 2 1 60x 2 1 60z 2 1 611 2 1 613 2 1 615 2 1 617 2 1 619 2 1 61b 2 1 61d 2 1 ",
    "61f 2 1 61h a 1 67 2 1 61t 2 1 61v 2 1 61x 2 1 61z 2 1 621 2 1 623 2 1 625 2 1 627 2 1 ",
    "629 2 1 62b 2 1 62d 2 1 62f 2 1 62h 2 1 62j 2 1 62l 2 1 62n 2 1 62p 2 1 62r 2 1 62t 2 1 ",
    "62v 2 1 62x 2 1 62z 2 1 631 2 1 633 2 1 635 2 1 637 2 1 639 2 1 63b 2 1 63d 2 1 63f 2 1 ",
    "63h 2 1 63j 2 1 63l 2 1 63n 2 1 63p 2 1 63r 2 1 63t 2 1 63v 2 1 63x 2 1 63z 2 1 641 2 1 ",
    "643 2 1 645 2 1 647 2 1 649 2 1 64b 2 1 64d 2 1 64f a 1 64g 1 1 64h 1 1 64i 1 1 64j 1 1 ",
    "64k 1 1 64l 1 1 64m 1 1 64n 9 1 64w 1 1 64x 1 1 64y 1 1 64z 1 1 650 1 1 651 b 1 65c 1 1 ",
    "65d 1 1 65e 1 1 65f 1 1 65g 1 1 65h 1 1 65i 1 1 65j 9 1 65s 1 1 65t 1 1 65u 1 1 65v 1 1 ",
    "65w 1 1 65x 1 1 65y 1 1 65z 9 1 668 1 1 669 1 1 66a 1 1 66b 1 1 66c 1 1 66d c 1 66p 2 1 ",
    "66r 2 1 66t 2 1 66v 9 1 674 1 1 675 1 1 676 1 1 677 1 1 678 1 1 679 1 1 67a 1 1 67b p 1 ",
    "680 1 1 681 1 1 682 1 1 683 1 1 684 1 1 685 1 1 686 1 1 687 9 1 68g 1 1 68h 1 1 68i 1 1 ",
    "68j 1 1 68k 1 1 68l 1 1 68m 1 1 68n 9 1 68w 1 1 68x 1 1 68y 1 1 68z 1 1 690 1 1 691 1 1 ",
    "692 1 1 693 9 1 69c 1 1 69d 1 1 67k 1 1 67l 1 1 69f c 1 67m 1 1 67n 1 1 67o 1 1 67p 1 1 ",
    "69v c 1 6a8 1 1 6a9 1 1 67q 1 1 67r d 1 6ao 1 1 6ap 1 1 67u 1 1 67v 1 1 6at c 1 67s 1 1 ",
    "67t 1 1 67w 1 1 67x 1 1 6b7 8a 1 qx 4 1 2z 1 1 6d 7 1 6ku 1a 1 6ls 1 1 6lt 1 1 6lu 1 1 ",
    "6lv 1 1 6lw 1 1 6lx 1 1 6ly 1 1 6lz 1 1 6m0 1 1 6m1 1 1 6m2 1 1 6m3 1 1 6m4 1 1 6m5 1 1 ",
    "6m6 1 1 6m7 k 1 6mc mr 1 79s 1 1 79t 1 1 79u 1 1 79v 1 1 79w 1 1 79x 1 1 79y 1 1 79z 1 1 ",
    "7a0 1 1 7a1 1 1 7a2 1 1 7a3 1 1 7a4 1 1 7a5 1 1 7a6 1 1 7a7 1 1 7a8 1 1 7a9 1 1 7aa 1 1 ",
    "7ab 1 1 7ac 1 1 7ad 1 1 7ae 1 1 7af 1 1 7ag 1 1 7ah 1f5 1 8q8 1 1 8q9 1 1 8qa 1 1 8qb 1 1 ",
    "8qc 1 1 8qd 1 1 8qe 1 1 8qf 1 1 8qg 1 1 8qh 1 1 8qi 1 1 8qj 1 1 8qk 1 1 8ql 1 1 8qm 1 1 ",
    "8qn 1 1 8qo 1 1 8qp 1 1 8qq 1 1 8qr 1 1 8qs 1 1 8qt 1 1 8qu 1 1 8qv 1 1 8qw 1 1 8qx 1 1 ",
    "8qy 1 1 8qz 1 1 8r0 1 1 8r1 1 1 8r2 1 1 8r3 1 1 8r4 1 1 8r5 1 1 8r6 1 1 8r7 1 1 8r8 1 1 ",
    "8r9 1 1 8ra 1 1 8rb 1 1 8rc 1 1 8rd 1 1 8re 1 1 8rf 1 1 8rg 1 1 8rh 1 1 8ri 1 1 8rj 1d 1 ",
    "8rl 2 1 h7 1 1 5tp 1 1 hp 3 1 8rs 2 1 8ru 2 1 8rw 2 1 gh 1 1 hd 1 1 gg 1 1 gi 2 1 8s3 3 1 ",
    "8s6 9 1 fz 1 1 g0 1 1 8sh 2 1 8sj 2 1 8sl 2 1 8sn 2 1 8sp 2 1 8sr 2 1 8st 2 1 8sv 2 1 8sx ",
    "2 1 8sz 2 1 8t1 2 1 8t3 2 1 8t5 2 1 8t7 2 1 8t9 2 1 8tb 2 1 8td 2 1 8tf 2 1 8th 2 1 8tj 2 ",
    "1 8tl 2 1 8tn 2 1 8tp 2 1 8tr 2 1 8tt 2 1 8tv 2 1 8tx 2 1 8tz 2 1 8u1 2 1 8u3 2 1 8u5 2 1 ",
    "8u7 2 1 8u9 2 1 8ub 2 1 8ud 2 1 8uf 2 1 8uh 2 1 8uj 2 1 8ul 2 1 8un 2 1 8up 2 1 8ur 2 1 ",
    "8ut 2 1 8uv 2 1 8ux 2 1 8uz 2 1 8v1 2 1 8v3 2 1 8v5 2 1 8v7 9 1 8vg 2 1 8vi 5 1 8vn nym 1 ",
    "wu9 2 1 wub 2 1 wud 2 1 wuf 2 1 wuh 2 1 wuj 2 1 wul 2 1 wun 2 1 wup 2 1 wur 2 1 wut 2 1 ",
    "wuv 2 1 wux 2 1 wuz 2 1 wv1 2 1 wv3 2 1 wv5 2 1 wv7 2 1 wv9 2 1 wvb 2 1 wvd 2 1 wvf 2 1 ",
    "wvh k 1 ww1 2 1 ww3 2 1 ww5 2 1 ww7 2 1 ww9 2 1 wwb 2 1 wwd 2 1 wwf 2 1 wwh 2 1 wwj 2 1 ",
    "wwl 2 1 wwn 2 1 wwp 2 1 wwr 3s 1 x0j 2 1 x0l 2 1 x0n 2 1 x0p 2 1 x0r 2 1 x0t 2 1 x0v 4 1 ",
    "x0z 2 1 x11 2 1 x13 2 1 x15 2 1 x17 2 1 x19 2 1 x1b 2 1 x1d 2 1 x1f 2 1 x1h 2 1 x1j 2 1 ",
    "x1l 2 1 x1n 2 1 x1p 2 1 x1r 2 1 x1t 2 1 x1v 2 1 x1x 2 1 x1z 2 1 x21 2 1 x23 2 1 x25 2 1 ",
    "x27 2 1 x29 2 1 x2b 2 1 x2d 2 1 x2f 2 1 x2h 2 1 x2j 2 1 x2l 2 1 x2n b 1 x2y 2 1 x30 2 1 ",
    "5tl 1 1 x33 2 1 x35 2 1 x37 2 1 x39 2 1 x3b 5 1 x3g 2 1 h1 3 1 x3l 2 1 x3n 4 1 x3r 2 1 ",
    "x3t 2 1 x3v 2 1 x3x 2 1 x3z 2 1 x41 2 1 x43 2 1 x45 2 1 x47 2 1 x49 2 1 h2 1 1 gs 1 1 gx ",
    "1 1 h8 1 1 h6 2 1 im 1 1 hz 1 1 il 1 1 xub 1 1 x4l 2 1 x4n 2 1 x4p 2 1 x4r 2 1 x4t 2 1 ",
    "x4v 2 1 x4x 2 1 x4z 2 1 x3o 1 1 hu 1 1 5u6 1 1 x54 2 1 x56 7 1 x5d 6 1 x5j 2 1 x5l t 1 ",
    "x6e h7w 1 1ef5 1 1 1ef6 1 1 1ef7 1 1 1ef8 1 1 1ef9 1 1 1efa 1 1 1efb 1 1 1efc 1 1 1efd 1 ",
    "1 1efe 1 1 1eff 1 1 1efg 1 1 1efh 1 1 1efi 1 1 1efj 1 1 1efk 1 1 1efl 1 1 1efm 1 1 1efn 1 ",
    "1 1efo 1 1 1efp 1 1 1efq 1 1 1efr 1 1 1efs 1 1 1eft 1 1 1efu xy 1 1fe0 1 1 1fe1 1 1 1fe2 ",
    "1 1 1fe3 1 1 1fe4 1 1 1fe5 1 1 1fe6 1 1 1fe7 1 1 1fe8 1 1 1fe9 1 1 1fea 1 1 1feb 1 1 1fec ",
    "1 1 1fed 1 1 1fee 1 1 1fef 1 1 1feg 1 1 1feh 1 1 1fei 1 1 1fej 1 1 1fek 1 1 1fel 1 1 1fem ",
    "1 1 1fen 1 1 1feo 1 1 1fep 1 1 1feq 1 1 1fer 1 1 1fes 1 1 1fet 1 1 1feu 1 1 1fev 1 1 1few ",
    "1 1 1fex 1 1 1fey 1 1 1fez 1 1 1ff0 1 1 1ff1 1 1 1ff2 1 1 1ff3 3t 1 1fiw 1 1 1fix 1 1 ",
    "1fiy 1 1 1fiz 1 1 1fj0 1 1 1fj1 1 1 1fj2 1 1 1fj3 1 1 1fj4 1 1 1fj5 1 1 1fj6 1 1 1fj7 1 1 ",
    "1fj8 1 1 1fj9 1 1 1fja 1 1 1fjb 1 1 1fjc 1 1 1fjd 1 1 1fje 1 1 1fjf 1 1 1fjg 1 1 1fjh 1 1 ",
    "1fji 1 1 1fjj 1 1 1fjk 1 1 1fjl 1 1 1fjm 1 1 1fjn 1 1 1fjo 1 1 1fjp 1 1 1fjq 1 1 1fjr 1 1 ",
    "1fjs 1 1 1fjt 1 1 1fju 1 1 1fjv 4d 1 1fo7 1 1 1fo8 1 1 1fo9 1 1 1foa 1 1 1fob 1 1 1foc 1 ",
    "1 1fod 1 1 1foe 1 1 1fof 1 1 1fog 1 1 1foh 2 1 1foj 1 1 1fok 1 1 1fol 1 1 1fom 1 1 1fon 1 ",
    "1 1foo 1 1 1fop 1 1 1foq 1 1 1for 1 1 1fos 1 1 1fot 1 1 1fou 1 1 1fov 1 1 1fow 1 1 1fox 2 ",
    "1 1foz 1 1 1fp0 1 1 1fp1 1 1 1fp2 1 1 1fp3 1 1 1fp4 1 1 1fp5 2 1 1fp7 1 1 1fp8 1d7 1 1h34 ",
    "1 1 1h35 1 1 1h36 1 1 1h37 1 1 1h38 1 1 1h39 1 1 1h3a 1 1 1h3b 1 1 1h3c 1 1 1h3d 1 1 1h3e ",
    "1 1 1h3f 1 1 1h3g 1 1 1h3h 1 1 1h3i 1 1 1h3j 1 1 1h3k 1 1 1h3l 1 1 1h3m 1 1 1h3n 1 1 1h3o ",
    "1 1 1h3p 1 1 1h3q 1 1 1h3r 1 1 1h3s 1 1 1h3t 1 1 1h3u 1 1 1h3v 1 1 1h3w 1 1 1h3x 1 1 1h3y ",
    "1 1 1h3z 1 1 1h40 1 1 1h41 1 1 1h42 1 1 1h43 1 1 1h44 1 1 1h45 1 1 1h46 1 1 1h47 1 1 1h48 ",
    "1 1 1h49 1 1 1h4a 1 1 1h4b 1 1 1h4c 1 1 1h4d 1 1 1h4e 1 1 1h4f 1 1 1h4g 1 1 1h4h 1 1 1h4i ",
    "2cu 1 1jgg 1 1 1jgh 1 1 1jgi 1 1 1jgj 1 1 1jgk 1 1 1jgl 1 1 1jgm 1 1 1jgn 1 1 1jgo 1 1 ",
    "1jgp 1 1 1jgq 1 1 1jgr 1 1 1jgs 1 1 1jgt 1 1 1jgu 1 1 1jgv 1 1 1jgw 1 1 1jgx 1 1 1jgy 1 1 ",
    "1jgz 1 1 1jh0 1 1 1jh1 1 1 1jh2 1 1 1jh3 1 1 1jh4 1 1 1jh5 1 1 1jh6 1 1 1jh7 1 1 1jh8 1 1 ",
    "1jh9 1 1 1jha 1 1 1jhb gw1 1 20dc 1 1 20dd 1 1 20de 1 1 20df 1 1 20dg 1 1 20dh 1 1 20di 1 ",
    "1 20dj 1 1 20dk 1 1 20dl 1 1 20dm 1 1 20dn 1 1 20do 1 1 20dp 1 1 20dq 1 1 20dr 1 1 20ds 1 ",
    "1 20dt 1 1 20du 1 1 20dv 1 1 20dw 1 1 20dx 1 1 20dy 1 1 20dz 1 1 20e0 1 1 20e1 1 1 20e2 1 ",
    "1 20e3 1 1 20e4 1 1 20e5 1 1 20e6 1 1 20e7 o81 1 2oma 1 1 2omb 1 1 2omc 1 1 2omd 1 1 2ome ",
    "1 1 2omf 1 1 2omg 1 1 2omh 1 1 2omi 1 1 2omj 1 1 2omk 1 1 2oml 1 1 2omm 1 1 2omn 1 1 2omo ",
    "1 1 2omp 1 1 2omq 1 1 2omr 1 1 2oms 1 1 2omt 1 1 2omu 1 1 2omv 1 1 2omw 1 1 2omx 1 1 2omy ",
    "1 1 2omz 1 1 2on0 1 1 2on1 1 1 2on2 1 1 2on3 1 1 2on4 1 1 2on5 1 1 2on6 1 1 2on7"])

/-- The simple case folding of each code point that folds to another one. -/
def folded : Replacements :=
  .ofText (String.join [
    "1t 1 2p 1 1 2q 1 1 2r 1 1 2s 1 1 2t 1 1 2u 1 1 2v 1 1 2w 1 1 2x 1 1 2y 1 1 2z 1 1 30 1 1 ",
    "31 1 1 32 1 1 33 1 1 34 1 1 35 1 1 36 1 1 37 1 1 38 1 1 39 1 1 3a 1 1 3b 1 1 3c 1 1 3d 1 ",
    "1 3e 2j 1 qk b 1 68 1 1 69 1 1 6a 1 1 6b 1 1 6c 1 1 6d 1 1 6e 1 1 6f 1 1 6g 1 1 6h 1 1 6i ",
    "1 1 6j 1 1 6k 1 1 6l 1 1 6m 1 1 6n 1 1 6o 1 1 6p 1 1 6q 1 1 6r 1 1 6s 1 1 6t 1 1 6u 2 1 ",
    "6w 1 1 6x 1 1 6y 1 1 6z 1 1 70 1 1 71 1 1 72 y 1 75 2 1 77 2 1 79 2 1 7b 2 1 7d 2 1 7f 2 ",
    "1 7h 2 1 7j 2 1 7l 2 1 7n 2 1 7p 2 1 7r 2 1 7t 2 1 7v 2 1 7x 2 1 7z 2 1 81 2 1 83 2 1 85 ",
    "2 1 87 2 1 89 2 1 8b 2 1 8d 2 1 8f 4 1 8j 2 1 8l 2 1 8n 3 1 8q 2 1 8s 2 1 8u 2 1 8w 2 1 ",
    "8y 2 1 90 2 1 92 2 1 94 3 1 97 2 1 99 2 1 9b 2 1 9d 2 1 9f 2 1 9h 2 1 9j 2 1 9l 2 1 9n 2 ",
    "1 9p 2 1 9r 2 1 9t 2 1 9v 2 1 9x 2 1 9z 2 1 a1 2 1 a3 2 1 a5 2 1 a7 2 1 a9 2 1 ab 2 1 ad ",
    "2 1 af 2 1 73 1 1 ai 2 1 ak 2 1 am 2 1 37 2 1 gj 1 1 ar 2 1 at 2 1 gk 1 1 aw 2 1 gm 1 1 ",
    "gn 1 1 b0 3 1 d9 1 1 gp 1 1 gr 1 1 b6 2 1 gw 1 1 gz 2 1 h5 1 1 h4 1 1 bd 4 1 hb 1 1 he 2 ",
    "1 hh 1 1 bl 2 1 bn 2 1 bp 2 1 hs 1 1 bs 2 1 hv 3 1 bx 2 1 i0 1 1 c0 2 1 i2 1 1 i3 1 1 c4 ",
    "2 1 c6 2 1 ia 1 1 c9 4 1 cd 8 1 cm 1 1 cm 2 1 cp 1 1 cp 2 1 cs 1 1 cs 2 1 cu 2 1 cw 2 1 ",
    "cy 2 1 d0 2 1 d2 2 1 d4 2 1 d6 2 1 d8 3 1 db 2 1 dd 2 1 df 2 1 dh 2 1 dj 2 1 dl 2 1 dn 2 ",
    "1 dp 2 1 dr 3 1 dv 1 1 dv 2 1 dx 2 1 b9 1 1 cf 1 1 e1 2 1 e3 2 1 e5 2 1 e7 2 1 e9 2 1 eb ",
    "2 1 ed 2 1 ef 2 1 eh 2 1 ej 2 1 el 2 1 en 2 1 ep 2 1 er 2 1 et 2 1 ev 2 1 ex 2 1 ez 2 1 ",
    "f1 2 1 f3 2 1 bi 2 1 f7 2 1 f9 2 1 fb 2 1 fd 2 1 ff 2 1 fh 2 1 fj 2 1 fl 2 1 fn 8 1 8rp 1 ",
    "1 fw 2 1 be 1 1 8rq 3 1 g2 2 1 ao 1 1 i1 1 1 i4 1 1 g7 2 1 g9 2 1 gb 2 1 gd 2 1 gf 6v 1 ",
    "qh 17 1 oh 2 1 oj 4 1 on 9 1 s3 7 1 q4 2 1 q5 1 1 q6 1 1 q7 2 1 r0 2 1 r1 1 1 r2 2 1 q9 1 ",
    "1 qa 1 1 qb 1 1 qc 1 1 qd 1 1 qe 1 1 qf 1 1 qg 1 1 qh 1 1 qi 1 1 qj 1 1 qk 1 1 ql 1 1 qm ",
    "1 1 qn 1 1 qo 1 1 qp 2 1 qr 1 1 qs 1 1 qt 1 1 qu 1 1 qv 1 1 qw 1 1 qx 1 1 qy 1 1 qz n 1 ",
    "qr d 1 rb 1 1 qa 1 1 qg 4 1 qu 1 1 qo 2 1 rd 2 1 rf 2 1 rh 2 1 rj 2 1 rl 2 1 rn 2 1 rp 2 ",
    "1 rr 2 1 rt 2 1 rv 2 1 rx 2 1 rz 2 1 qi 1 1 qp 3 1 qg 1 1 qd 2 1 s8 2 1 s2 1 1 sb 3 1 or ",
    "1 1 os 1 1 ot 1 1 uo 1 1 up 1 1 uq 1 1 ur 1 1 us 1 1 ut 1 1 uu 1 1 uv 1 1 uw 1 1 ux 1 1 ",
    "uy 1 1 uz 1 1 v0 1 1 v1 1 1 v2 1 1 v3 1 1 ts 1 1 tt 1 1 tu 1 1 tv 1 1 tw 1 1 tx 1 1 ty 1 ",
    "1 tz 1 1 u0 1 1 u1 1 1 u2 1 1 u3 1 1 u4 1 1 u5 1 1 u6 1 1 u7 1 1 u8 1 1 u9 1 1 ua 1 1 ub ",
    "1 1 uc 1 1 ud 1 1 ue 1 1 uf 1 1 ug 1 1 uh 1 1 ui 1 1 uj 1 1 uk 1 1 ul 1 1 um 1 1 un 1d 1 ",
    "v5 2 1 v7 2 1 v9 2 1 vb 2 1 vd 2 1 vf 2 1 vh 2 1 vj 2 1 vl 2 1 vn 2 1 vp 2 1 vr 2 1 vt 2 ",
    "1 vv 2 1 vx 2 1 vz 2 1 w1 a 1 wb 2 1 wd 2 1 wf 2 1 wh 2 1 wj 2 1 wl 2 1 wn 2 1 wp 2 1 wr ",
    "2 1 wt 2 1 wv 2 1 wx 2 1 wz 2 1 x1 2 1 x3 2 1 x5 2 1 x7 2 1 x9 2 1 xb 2 1 xd 2 1 xf 2 1 ",
    "xh 2 1 xj 2 1 xl 2 1 xn 2 1 xp 2 1 xr 2 1 y7 1 1 xu 2 1 xw 2 1 xy 2 1 y0 2 1 y2 2 1 y4 2 ",
    "1 y6 3 1 y9 2 1 yb 2 1 yd 2 1 yf 2 1 yh 2 1 yj 2 1 yl 2 1 yn 2 1 yp 2 1 yr 2 1 yt 2 1 yv ",
    "2 1 yx 2 1 yz 2 1 z1 2 1 z3 2 1 z5 2 1 z7 2 1 z9 2 1 zb 2 1 zd 2 1 zf 2 1 zh 2 1 zj 2 1 ",
    "zl 2 1 zn 2 1 zp 2 1 zr 2 1 zt 2 1 zv 2 1 zx 2 1 zz 2 1 101 2 1 103 2 1 105 2 1 107 2 1 ",
    "109 2 1 10b 2 1 10d 2 1 10f 2 1 10h 2 1 10j 2 1 10l 2 1 10n 2 1 10p 2 1 10r 2 1 10t 2 1 ",
    "10v 3 1 129 1 1 12a 1 1 12b 1 1 12c 1 1 12d 1 1 12e 1 1 12f 1 1 12g 1 1 12h 1 1 12i 1 1 ",
    "12j 1 1 12k 1 1 12l 1 1 12m 1 1 12n 1 1 12o 1 1 12p 1 1 12q 1 1 12r 1 1 12s 1 1 12t 1 1 ",
    "12u 1 1 12v 1 1 12w 1 1 12x 1 1 12y 1 1 12z 1 1 130 1 1 131 1 1 132 1 1 133 1 1 134 1 1 ",
    "135 1 1 136 1 1 137 1 1 138 1 1 139 1 1 13a 28a 1 8w0 1 1 8w1 1 1 8w2 1 1 8w3 1 1 8w4 1 1 ",
    "8w5 1 1 8w6 1 1 8w7 1 1 8w8 1 1 8w9 1 1 8wa 1 1 8wb 1 1 8wc 1 1 8wd 1 1 8we 1 1 8wf 1 1 ",
    "8wg 1 1 8wh 1 1 8wi 1 1 8wj 1 1 8wk 1 1 8wl 1 1 8wm 1 1 8wn 1 1 8wo 1 1 8wp 1 1 8wq 1 1 ",
    "8wr 1 1 8ws 1 1 8wt 1 1 8wu 1 1 8wv 1 1 8ww 1 1 8wx 1 1 8wy 1 1 8wz 1 1 8x0 1 1 8x1 2 1 ",
    "8x3 6 1 8x9 mj 1 3xs 1 1 3xt 1 1 3xu 1 1 3xv 1 1 3xw 1 1 3xx 1oj 1 tu 1 1 tw 1 1 u6 1 1 ",
    "u9 1 1 ua 1 1 ua 1 1 ui 1 1 v7 1 1 wuj 8 1 3bk 1 1 3bl 1 1 3bm 1 1 3bn 1 1 3bo 1 1 3bp 1 ",
    "1 3bq 1 1 3br 1 1 3bs 1 1 3bt 1 1 3bu 1 1 3bv 1 1 3bw 1 1 3bx 1 1 3by 1 1 3bz 1 1 3c0 1 1 ",
    "3c1 1 1 3c2 1 1 3c3 1 1 3c4 1 1 3c5 1 1 3c6 1 1 3c7 1 1 3c8 1 1 3c9 1 1 3ca 1 1 3cb 1 1 ",
    "3cc 1 1 3cd 1 1 3ce 1 1 3cf 1 1 3cg 1 1 3ch 1 1 3ci 1 1 3cj 1 1 3ck 1 1 3cl 1 1 3cm 1 1 ",
    "3cn 1 1 3co 1 1 3cp 1 1 3cq 3 1 3ct 1 1 3cu 1 1 3cv 8x 1 5xd 2 1 5xf 2 1 5xh 2 1 5xj 2 1 ",
    "5xl 2 1 5xn 2 1 5xp 2 1 5xr 2 1 5xt 2 1 5xv 2 1 5xx 2 1 5xz 2 1 5y1 2 1 5y3 2 1 5y5 2 1 ",
    "5y7 2 1 5y9 2 1 5yb 2 1 5yd 2 1 5yf 2 1 5yh 2 1 5yj 2 1 5yl 2 1 5yn 2 1 5yp 2 1 5yr 2 1 ",
    "5yt 2 1 5yv 2 1 5yx 2 1 5yz 2 1 5z1 2 1 5z3 2 1 5z5 2 1 5z7 2 1 5z9 2 1 5zb 2 1 5zd 2 1 ",
    "5zf 2 1 5zh 2 1 5zj 2 1 5zl 2 1 5zn 2 1 5zp 2 1 5zr 2 1 5zt 2 1 5zv 2 1 5zx 2 1 5zz 2 1 ",
    "601 2 1 603 2 1 605 2 1 607 2 1 609 2 1 60b 2 1 60d 2 1 60f 2 1 60h 2 1 60j 2 1 60l 2 1 ",
    "60n 2 1 60p 2 1 60r 2 1 60t 2 1 60v 2 1 60x 2 1 60z 2 1 611 2 1 613 2 1 615 2 1 617 2 1 ",
    "619 2 1 61b 2 1 61d 2 1 61f 2 1 61h 7 1 601 3 1 67 2 1 61t 2 1 61v 2 1 61x 2 1 61z 2 1 ",
    "621 2 1 623 2 1 625 2 1 627 2 1 629 2 1 62b 2 1 62d 2 1 62f 2 1 62h 2 1 62j 2 1 62l 2 1 ",
    "62n 2 1 62p 2 1 62r 2 1 62t 2 1 62v 2 1 62x 2 1 62z 2 1 631 2 1 633 2 1 635 2 1 637 2 1 ",
    "639 2 1 63b 2 1 63d 2 1 63f 2 1 63h 2 1 63j 2 1 63l 2 1 63n 2 1 63p 2 1 63r 2 1 63t 2 1 ",
    "63v 2 1 63x 2 1 63z 2 1 641 2 1 643 2 1 645 2 1 647 2 1 649 2 1 64b 2 1 64d 2 1 64f a 1 ",
    "64g 1 1 64h 1 1 64i 1 1 64j 1 1 64k 1 1 64l 1 1 64m 1 1 64n 9 1 64w 1 1 64x 1 1 64y 1 1 ",
    "64z 1 1 650 1 1 651 b 1 65c 1 1 65d 1 1 65e 1 1 65f 1 1 65g 1 1 65h 1 1 65i 1 1 65j 9 1 ",
    "65s 1 1 65t 1 1 65u 1 1 65v 1 1 65w 1 1 65x 1 1 65y 1 1 65z 9 1 668 1 1 669 1 1 66a 1 1 ",
    "66b 1 1 66c 1 1 66d c 1 66p 2 1 66r 2 1 66t 2 1 66v 9 1 674 1 1 675 1 1 676 1 1 677 1 1 ",
    "678 1 1 679 1 1 67a 1 1 67b p 1 680 1 1 681 1 1 682 1 1 683 1 1 684 1 1 685 1 1 686 1 1 ",
    "687 9 1 68g 1 1 68h 1 1 68i 1 1 68j 1 1 68k 1 1 68l 1 1 68m 1 1 68n 9 1 68w 1 1 68x 1 1 ",
    "68y 1 1 68z 1 1 690 1 1 691 1 1 692 1 1 693 9 1 69c 1 1 69d 1 1 67k 1 1 67l 1 1 69f 2 1 ",
    "qh a 1 67m 1 1 67n 1 1 67o 1 1 67p 1 1 69v c 1 6a8 1 1 6a9 1 1 67q 1 1 67r d 1 6ao 1 1 ",
    "6ap 1 1 67u 1 1 67v 1 1 6at c 1 67s 1 1 67t 1 1 67w 1 1 67x 1 1 6b7 8a 1 qx 4 1 2z 1 1 6d ",
    "7 1 6ku 1a 1 6ls 1 1 6lt 1 1 6lu 1 1 6lv 1 1 6lw 1 1 6lx 1 1 6ly 1 1 6lz 1 1 6m0 1 1 6m1 ",
    "1 1 6m2 1 1 6m3 1 1 6m4 1 1 6m5 1 1 6m6 1 1 6m7 k 1 6mc mr 1 79s 1 1 79t 1 1 79u 1 1 79v ",
    "1 1 79w 1 1 79x 1 1 79y 1 1 79z 1 1 7a0 1 1 7a1 1 1 7a2 1 1 7a3 1 1 7a4 1 1 7a5 1 1 7a6 1 ",
    "1 7a7 1 1 7a8 1 1 7a9 1 1 7aa 1 1 7ab 1 1 7ac 1 1 7ad 1 1 7ae 1 1 7af 1 1 7ag 1 1 7ah 1f5 ",
    "1 8q8 1 1 8q9 1 1 8qa 1 1 8qb 1 1 8qc 1 1 8qd 1 1 8qe 1 1 8qf 1 1 8qg 1 1 8qh 1 1 8qi 1 1 ",
    "8qj 1 1 8qk 1 1 8ql 1 1 8qm 1 1 8qn 1 1 8qo 1 1 8qp 1 1 8qq 1 1 8qr 1 1 8qs 1 1 8qt 1 1 ",
    "8qu 1 1 8qv 1 1 8qw 1 1 8qx 1 1 8qy 1 1 8qz 1 1 8r0 1 1 8r1 1 1 8r2 1 1 8r3 1 1 8r4 1 1 ",
    "8r5 1 1 8r6 1 1 8r7 1 1 8r8 1 1 8r9 1 1 8ra 1 1 8rb 1 1 8rc 1 1 8rd 1 1 8re 1 1 8rf 1 1 ",
    "8rg 1 1 8rh 1 1 8ri 1 1 8rj 1d 1 8rl 2 1 h7 1 1 5tp 1 1 hp 3 1 8rs 2 1 8ru 2 1 8rw 2 1 gh ",
    "1 1 hd 1 1 gg 1 1 gi 2 1 8s3 3 1 8s6 9 1 fz 1 1 g0 1 1 8sh 2 1 8sj 2 1 8sl 2 1 8sn 2 1 ",
    "8sp 2 1 8sr 2 1 8st 2 1 8sv 2 1 8sx 2 1 8sz 2 1 8t1 2 1 8t3 2 1 8t5 2 1 8t7 2 1 8t9 2 1 ",
    "8tb 2 1 8td 2 1 8tf 2 1 8th 2 1 8tj 2 1 8tl 2 1 8tn 2 1 8tp 2 1 8tr 2 1 8tt 2 1 8tv 2 1 ",
    "8tx 2 1 8tz 2 1 8u1 2 1 8u3 2 1 8u5 2 1 8u7 2 1 8u9 2 1 8ub 2 1 8ud 2 1 8uf 2 1 8uh 2 1 ",
    "8uj 2 1 8ul 2 1 8un 2 1 8up 2 1 8ur 2 1 8ut 2 1 8uv 2 1 8ux 2 1 8uz 2 1 8v1 2 1 8v3 2 1 ",
    "8v5 2 1 8v7 9 1 8vg 2 1 8vi 5 1 8vn nym 1 wu9 2 1 wub 2 1 wud 2 1 wuf 2 1 wuh 2 1 wuj 2 1 ",
    "wul 2 1 wun 2 1 wup 2 1 wur 2 1 wut 2 1 wuv 2 1 wux 2 1 wuz 2 1 wv1 2 1 wv3 2 1 wv5 2 1 ",
    "wv7 2 1 wv9 2 1 wvb 2 1 wvd 2 1 wvf 2 1 wvh k 1 ww1 2 1 ww3 2 1 ww5 2 1 ww7 2 1 ww9 2 1 ",
    "wwb 2 1 wwd 2 1 wwf 2 1 wwh 2 1 wwj 2 1 wwl 2 1 wwn 2 1 wwp 2 1 wwr 3s 1 x0j 2 1 x0l 2 1 ",
    "x0n 2 1 x0p 2 1 x0r 2 1 x0t 2 1 x0v 4 1 x0z 2 1 x11 2 1 x13 2 1 x15 2 1 x17 2 1 x19 2 1 ",
    "x1b 2 1 x1d 2 1 x1f 2 1 x1h 2 1 x1j 2 1 x1l 2 1 x1n 2 1 x1p 2 1 x1r 2 1 x1t 2 1 x1v 2 1 ",
    "x1x 2 1 x1z 2 1 x21 2 1 x23 2 1 x25 2 1 x27 2 1 x29 2 1 x2b 2 1 x2d 2 1 x2f 2 1 x2h 2 1 ",
    "x2j 2 1 x2l 2 1 x2n b 1 x2y 2 1 x30 2 1 5tl 1 1 x33 2 1 x35 2 1 x37 2 1 x39 2 1 x3b 5 1 ",
    "x3g 2 1 h1 3 1 x3l 2 1 x3n 4 1 x3r 2 1 x3t 2 1 x3v 2 1 x3x 2 1 x3z 2 1 x41 2 1 x43 2 1 ",
    "x45 2 1 x47 2 1 x49 2 1 h2 1 1 gs 1 1 gx 1 1 h8 1 1 h6 2 1 im 1 1 hz 1 1 il 1 1 xub 1 1 ",
    "x4l 2 1 x4n 2 1 x4p 2 1 x4r 2 1 x4t 2 1 x4v 2 1 x4x 2 1 x4z 2 1 x3o 1 1 hu 1 1 5u6 1 1 ",
    "x54 2 1 x56 7 1 x5d 6 1 x5j 2 1 x5l t 1 x6e or 1 3vk 1 1 3vl 1 1 3vm 1 1 3vn 1 1 3vo 1 1 ",
    "3vp 1 1 3vq 1 1 3vr 1 1 3vs 1 1 3vt 1 1 3vu 1 1 3vv 1 1 3vw 1 1 3vx 1 1 3vy 1 1 3vz 1 1 ",
    "3w0 1 1 3w1 1 1 3w2 1 1 3w3 1 1 3w4 1 1 3w5 1 1 3w6 1 1 3w7 1 1 3w8 1 1 3w9 1 1 3wa 1 1 ",
    "3wb 1 1 3wc 1 1 3wd 1 1 3we 1 1 3wf 1 1 3wg 1 1 3wh 1 1 3wi 1 1 3wj 1 1 3wk 1 1 3wl 1 1 ",
    "3wm 1 1 3wn 1 1 3wo 1 1 3wp 1 1 3wq 1 1 3wr 1 1 3ws 1 1 3wt 1 1 3wu 1 1 3wv 1 1 3ww 1 1 ",
    "3wx 1 1 3wy 1 1 3wz 1 1 3x0 1 1 3x1 1 1 3x2 1 1 3x3 1 1 3x4 1 1 3x5 1 1 3x6 1 1 3x7 1 1 ",
    "3x8 1 1 3x9 1 1 3xa 1 1 3xb 1 1 3xc 1 1 3xd 1 1 3xe 1 1 3xf 1 1 3xg 1 1 3xh 1 1 3xi 1 1 ",
    "3xj 1 1 3xk 1 1 3xl 1 1 3xm 1 1 3xn 1 1 3xo 1 1 3xp 1 1 3xq 1 1 3xr ggy 1 1ef5 1 1 1ef6 1 ",
    "1 1ef7 1 1 1ef8 1 1 1ef9 1 1 1efa 1 1 1efb 1 1 1efc 1 1 1efd 1 1 1efe 1 1 1eff 1 1 1efg 1 ",
    "1 1efh 1 1 1efi 1 1 1efj 1 1 1efk 1 1 1efl 1 1 1efm 1 1 1efn 1 1 1efo 1 1 1efp 1 1 1efq 1 ",
    "1 1efr 1 1 1efs 1 1 1eft 1 1 1efu xy 1 1fe0 1 1 1fe1 1 1 1fe2 1 1 1fe3 1 1 1fe4 1 1 1fe5 ",
    "1 1 1fe6 1 1 1fe7 1 1 1fe8 1 1 1fe9 1 1 1fea 1 1 1feb 1 1 1fec 1 1 1fed 1 1 1fee 1 1 1fef ",
    "1 1 1feg 1 1 1feh 1 1 1fei 1 1 1fej 1 1 1fek 1 1 1fel 1 1 1fem 1 1 1fen 1 1 1feo 1 1 1fep ",
    "1 1 1feq 1 1 1fer 1 1 1fes 1 1 1fet 1 1 1feu 1 1 1fev 1 1 1few 1 1 1fex 1 1 1fey 1 1 1fez ",
    "1 1 1ff0 1 1 1ff1 1 1 1ff2 1 1 1ff3 3t 1 1fiw 1 1 1fix 1 1 1fiy 1 1 1fiz 1 1 1fj0 1 1 ",
    "1fj1 1 1 1fj2 1 1 1fj3 1 1 1fj4 1 1 1fj5 1 1 1fj6 1 1 1fj7 1 1 1fj8 1 1 1fj9 1 1 1fja 1 1 ",
    "1fjb 1 1 1fjc 1 1 1fjd 1 1 1fje 1 1 1fjf 1 1 1fjg 1 1 1fjh 1 1 1fji 1 1 1fjj 1 1 1fjk 1 1 ",
    "1fjl 1 1 1fjm 1 1 1fjn 1 1 1fjo 1 1 1fjp 1 1 1fjq 1 1 1fjr 1 1 1fjs 1 1 1fjt 1 1 1fju 1 1 ",
    "1fjv 4d 1 1fo7 1 1 1fo8 1 1 1fo9 1 1 1foa 1 1 1fob 1 1 1foc 1 1 1fod 1 1 1foe 1 1 1fof 1 ",
    "1 1fog 1 1 1foh 2 1 1foj 1 1 1fok 1 1 1fol 1 1 1fom 1 1 1fon 1 1 1foo 1 1 1fop 1 1 1foq 1 ",
    "1 1for 1 1 1fos 1 1 1fot 1 1 1fou 1 1 1fov 1 1 1fow 1 1 1fox 2 1 1foz 1 1 1fp0 1 1 1fp1 1 ",
    "1 1fp2 1 1 1fp3 1 1 1fp4 1 1 1fp5 2 1 1fp7 1 1 1fp8 1d7 1 1h34 1 1 1h35 1 1 1h36 1 1 1h37 ",
    "1 1 1h38 1 1 1h39 1 1 1h3a 1 1 1h3b 1 1 1h3c 1 1 1h3d 1 1 1h3e 1 1 1h3f 1 1 1h3g 1 1 1h3h ",
    "1 1 1h3i 1 1 1h3j 1 1 1h3k 1 1 1h3l 1 1 1h3m 1 1 1h3n 1 1 1h3o 1 1 1h3p 1 1 1h3q 1 1 1h3r ",
    "1 1 1h3s 1 1 1h3t 1 1 1h3u 1 1 1h3v 1 1 1h3w 1 1 1h3x 1 1 1h3y 1 1 1h3z 1 1 1h40 1 1 1h41 ",
    "1 1 1h42 1 1 1h43 1 1 1h44 1 1 1h45 1 1 1h46 1 1 1h47 1 1 1h48 1 1 1h49 1 1 1h4a 1 1 1h4b ",
    "1 1 1h4c 1 1 1h4d 1 1 1h4e 1 1 1h4f 1 1 1h4g 1 1 1h4h 1 1 1h4i 2cu 1 1jgg 1 1 1jgh 1 1 ",
    "1jgi 1 1 1jgj 1 1 1jgk 1 1 1jgl 1 1 1jgm 1 1 1jgn 1 1 1jgo 1 1 1jgp 1 1 1jgq 1 1 1jgr 1 1 ",
    "1jgs 1 1 1jgt 1 1 1jgu 1 1 1jgv 1 1 1jgw 1 1 1jgx 1 1 1jgy 1 1 1jgz 1 1 1jh0 1 1 1jh1 1 1 ",
    "1jh2 1 1 1jh3 1 1 1jh4 1 1 1jh5 1 1 1jh6 1 1 1jh7 1 1 1jh8 1 1 1jh9 1 1 1jha 1 1 1jhb gw1 ",
    "1 20dc 1 1 20dd 1 1 20de 1 1 20df 1 1 20dg 1 1 20dh 1 1 20di 1 1 20dj 1 1 20dk 1 1 20dl 1 ",
    "1 20dm 1 1 20dn 1 1 20do 1 1 20dp 1 1 20dq 1 1 20dr 1 1 20ds 1 1 20dt 1 1 20du 1 1 20dv 1 ",
    "1 20dw 1 1 20dx 1 1 20dy 1 1 20dz 1 1 20e0 1 1 20e1 1 1 20e2 1 1 20e3 1 1 20e4 1 1 20e5 1 ",
    "1 20e6 1 1 20e7 o81 1 2oma 1 1 2omb 1 1 2omc 1 1 2omd 1 1 2ome 1 1 2omf 1 1 2omg 1 1 2omh ",
    "1 1 2omi 1 1 2omj 1 1 2omk 1 1 2oml 1 1 2omm 1 1 2omn 1 1 2omo 1 1 2omp 1 1 2omq 1 1 2omr ",
    "1 1 2oms 1 1 2omt 1 1 2omu 1 1 2omv 1 1 2omw 1 1 2omx 1 1 2omy 1 1 2omz 1 1 2on0 1 1 2on1 ",
    "1 1 2on2 1 1 2on3 1 1 2on4 1 1 2on5 1 1 2on6 1 1 2on7"])

/-- The code points that have case. -/
def cased : Table :=
  .ofText (String.join [
    "1t q 6 q 1b 1 a 1 4 1 5 n 1 v 1 5f 1 4 4 5s 1 10 7 2 u 5 2o 1 16 4 2 2 2 4 1 1 6 1 1 3 1 ",
    "1 1 k 1 2b 1 3v 8 4m 1 12 9 15 26v 12 1 1 5 1 2 17 1 4 io 2e 2 6 1oi 9 7 17 2 3 1s 5c 1s ",
    "7q 2 6 2 12 2 6 2 8 1 1 1 1 1 1 1 v 2 1h 1 7 1 1 3 3 1 7 3 4 2 6 4 d 5 3 1 7 38 1 d 1 g d ",
    "2t 1 4 1 2 a 1 1 3 5 6 1 1 1 1 1 1 4 1 6 4 1 2 4 5 5 4 1 h w 3 2 mp 1g 1ee 6d 6 4 3 2 c ",
    "12 1 1 5 1 nwy 1a i u 3o 2u 3 4 1 1n 5 2 1 1 1 5 o 5 1 3 mt 17 1 e 6 28 fnk 7 c 5 sp q 6 ",
    "q x1 28 2o 10 4 10 38 b 1 f 1 7 1 2 1 b 1 f 1 7 1 2 cj 1 2 3 1 16 1 9 xx 1f d 1f 2b1 1s ",
    "gv4 1s k1s 2d 1 1z 1 2 2 1 2 2 2 4 1 c 1 1 1 7 1 1t 1 4 2 8 1 7 1 s 1 4 1 5 1 1 3 7 1 9g ",
    "2 p 1 p 1 v 1 p 1 v 1 p 1 v 1 p 1 v 1 p 1 8 1f8 a 1 k 6 6 79 1q 1oy 1w 1kc q 6 q 6 q"])

/-- The code points that the rules of case look past. -/
def ignorable : Table :=
  .ofText (String.join [
    "13 1 6 1 b 1 z 1 1 1 1z 1 4 1 1 1 4 1 2 2 dz 5c 4 2 4 1 9 2 1 1 6z 7 5r 1 5 1 1d 19 1 1 1 ",
    "2 1 2 1 1 18 1 b 6 a b 1 1 z 1 a l g 1 2t 8 1 a 1 4 x 1 1 1 u r 2j b 1m b 4 1 2 1 o o 17 ",
    "3 18 1 7 2 6 8 15 1m 1j 1 1 1 4 8 4 1 3 7 a 2 d 1 f 1 1m 1 4 4 8 1 k 2 q 1 2 2 1l 1 4 2 4 ",
    "2 2 3 3 1 u 2 3 1 b 2 1l 1 4 5 1 2 4 1 k 2 m 6 1 1 1m 1 2 1 1 4 8 1 7 2 b 2 u 1 1p 1 c 1 ",
    "1e 1 3 1 1j 1 1 3 5 3 1 4 7 2 b 2 t 1 1m 1 2 1 6 1 5 2 k 2 s 2 1l 2 4 4 8 1 k 2 t 1 20 1 ",
    "7 3 1 1 2i 1 2 7 b 9 2q 1 2 9 9 1 1 7 21 2 r 1 1 1 1 1 1j e 1 5 1 2 5 b 1 10 9 1 2u 4 1 6 ",
    "1 2 2 2 p 2 4 3 g 4 d 1 2 2 6 1 f 1 2m 1 gw 3 qa 3 t 2 u 2 u 2 1s 2 1 7 8 1 2 b 3 1 5 1 ",
    "19 5 1f 1 1t 2 y 1 3a 3 4 2 9 1 6 3 63 2 2 1 1m 1 1 7 1 1 1 1 2 8 6 a 2 1 13 1 8 v 1d 4 ",
    "1c 1 1 5 1 1 5 1 14 9 c 2 w 4 2 2 1 3 1k 1 1 2 3 1 1 3 1m 8 2 2 1s 6 2a 3 1 d 1 7 4 1 6 1 ",
    "3 2 1e 1r d 1 y 2t cd 1 1 3 b 3 d 3 d 3 d 2 c 5 8 2 a 1 2 1 2 5 1d 5 1 a 1 1 d 1 g d 1f x ",
    "2a3 2 35 3 3h 1 f 1 2o w 1b 1 d1 1 10 4 3 5 5 1 2l 6 2l 3 lxy 1 yq 6 7i 1 2q 4 1 a 1 1 s ",
    "4 28 2 e y 26 1 n 3 2v 3 3 2 8 1 3 1 4 1 p 2 5 1 47 2 q i d 1 12 8 p b 1a 3 1c 1 2 4 2 2 ",
    "h 1 l 2 1u 6 2 2 2 2 c 1 8 1 z 1 b 1 1f 1 1 3 2 2 5 2 1 1 r 1 e 2 5 2 1 1 2s 5 9 3 3d 1 2 ",
    "1 4 1 fn4 1 43 h fx g 3 1 c g y 1 2 1 4p 1 7 1 6 1 b 1 z 1 1 1 1b 1 19 2 1v 1 l 3 e9 1 6a ",
    "1 45 5 sl 6 1 16 1 9 g6 3 1 2 5 4 14 3 4 1 4l 2 fx 4 ar 2 28 3 1y b 1d 4 3f 1 1i f 15 1 2 ",
    "2 a 3 1d 4 2 2 2 1 4 1 a 1 1e 3 10 5 1 8 1q 1 c 2 1g 9 a 4 2 1 2n 3 2 1 1 2 6 1 2 1 4d 1 ",
    "3 8 l 2 1l 2 3 1 11 7 3 5 5f 8 2 3 1 1 n 1 2c 6 1 1 4 2 1 2 6m 4 6 2 1 2 r 2 2d 8 2 1 1 2 ",
    "2y 1 1 1 2 6 1 1 2t 3 2 4 1 5 77 9 1 2 74 2 1 1 4 1 40 4 2 2 4 1 w a 14 6 2 4 8 1 9 6 2 3 ",
    "1a d 1 2 ba 7 1 6 1 1 2a m 2 7 1 2 1 2 3e 6 3 1 1 2 1 7 1 1 20 2 3 1 1 1 9n 2 b 2 1g 5 5 ",
    "1 1 1 44t h 6 f asa 5 1n 7 9 4 sr 1 1r h 1s 2 1 2 cnf 4 1 7 1 2 2hq 2 1 4 3mk 1a 2 n f4 3 ",
    "9 g 2 7 u 4 44 3 1iz 1j 4 1e 8 1 e 1 m 5 1 f 11s 7 1 h 2 7 1 2 1 5 5 1q x 1 4g e a8 1 1p ",
    "4 e3 5 rk 7 31 8 23z 5 gx6p 1 u 2o 3k 6o"])

/-- The upper-case code points. -/
def upperCase : Table :=
  .ofText (String.join [
    "1t q 2t n 1 7 x 1 1 1 1 1 1 1 1 1 1 1 1 1 1 1 1 1 1 1 1 1 1 1 1 1 1 1 1 1 1 1 1 1 1 1 1 1 ",
    "1 1 1 1 1 1 1 1 1 1 1 1 1 1 1 1 1 1 2 1 1 1 1 1 1 1 1 1 1 1 1 1 1 1 2 1 1 1 1 1 1 1 1 1 1 ",
    "1 1 1 1 1 1 1 1 1 1 1 1 1 1 1 1 1 1 1 1 1 1 1 1 1 1 1 1 1 1 1 1 1 1 1 1 2 1 1 1 1 3 2 1 1 ",
    "1 2 1 3 2 4 1 2 1 3 3 2 1 2 1 1 1 1 1 2 1 1 2 1 1 2 1 3 1 1 1 2 3 1 7 1 2 1 2 1 2 1 1 1 1 ",
    "1 1 1 1 1 1 1 1 1 1 1 2 1 1 1 1 1 1 1 1 1 1 1 1 1 1 1 1 1 2 1 2 1 1 3 1 1 1 1 1 1 1 1 1 1 ",
    "1 1 1 1 1 1 1 1 1 1 1 1 1 1 1 1 1 1 1 1 1 1 1 1 1 1 1 1 1 1 1 1 1 1 1 1 1 1 1 1 1 1 1 1 1 ",
    "1 1 1 7 2 1 2 2 1 1 4 1 1 1 1 1 1 1 1 81 1 1 1 3 1 8 1 6 1 1 3 1 1 1 2 1 h 1 9 z 1 2 3 3 ",
    "1 1 1 1 1 1 1 1 1 1 1 1 1 1 1 1 1 1 1 1 1 1 1 5 1 2 1 1 2 2 1f 1c 1 1 1 1 1 1 1 1 1 1 1 1 ",
    "1 1 1 1 1 1 1 1 1 1 1 1 1 1 1 1 1 1 1 1 1 9 1 1 1 1 1 1 1 1 1 1 1 1 1 1 1 1 1 1 1 1 1 1 1 ",
    "1 1 1 1 1 1 1 1 1 1 1 1 1 1 1 1 1 1 1 1 1 1 1 1 1 1 1 1 1 1 1 2 1 1 1 1 1 1 1 1 1 1 1 1 2 ",
    "1 1 1 1 1 1 1 1 1 1 1 1 1 1 1 1 1 1 1 1 1 1 1 1 1 1 1 1 1 1 1 1 1 1 1 1 1 1 1 1 1 1 1 1 1 ",
    "1 1 1 1 1 1 1 1 1 1 1 1 1 1 1 1 1 1 1 1 1 1 1 1 1 1 1 1 1 1 1 1 1 1 1 1 1 1 1 1 1 1 1 1 1 ",
    "1 1 1 1 1 2 12 289 12 1 1 5 1 k2 2e 1p6 17 2 3 8w 1 1 1 1 1 1 1 1 1 1 1 1 1 1 1 1 1 1 1 1 ",
    "1 1 1 1 1 1 1 1 1 1 1 1 1 1 1 1 1 1 1 1 1 1 1 1 1 1 1 1 1 1 1 1 1 1 1 1 1 1 1 1 1 1 1 1 1 ",
    "1 1 1 1 1 1 1 1 1 1 1 1 1 1 1 1 1 1 1 1 1 1 1 1 1 1 1 1 1 1 1 1 1 1 1 1 1 1 1 1 1 1 1 1 1 ",
    "1 1 1 1 1 1 1 1 1 1 1 1 1 1 1 1 1 1 1 1 1 1 1 1 1 1 1 1 1 1 1 1 1 1 1 1 1 1 1 9 1 1 1 1 1 ",
    "1 1 1 1 1 1 1 1 1 1 1 1 1 1 1 1 1 1 1 1 1 1 1 1 1 1 1 1 1 1 1 1 1 1 1 1 1 1 1 1 1 1 1 1 1 ",
    "1 1 1 1 1 1 1 1 1 1 1 1 1 1 1 1 1 1 1 1 1 1 1 1 1 1 1 1 1 1 1 1 1 1 1 1 1 1 1 1 1 1 1 1 1 ",
    "1 1 9 8 8 6 a 8 8 8 8 6 b 1 1 1 1 1 1 1 8 8 20 4 c 4 c 4 c 5 b 4 7a 1 4 1 3 3 2 3 2 1 3 5 ",
    "6 1 1 1 1 1 1 4 2 4 a 2 5 1 q g j 1 mq q 1f4 1c 1c 1 1 3 2 1 1 1 1 1 1 4 1 1 2 1 8 3 1 1 ",
    "1 1 1 1 1 1 1 1 1 1 1 1 1 1 1 1 1 1 1 1 1 1 1 1 1 1 1 1 1 1 1 1 1 1 1 1 1 1 1 1 1 1 1 1 1 ",
    "1 1 1 1 1 1 1 1 1 1 1 1 1 1 1 1 1 1 1 1 1 1 1 1 1 1 1 1 1 1 1 1 1 1 1 1 1 1 1 1 1 1 1 1 1 ",
    "1 1 1 1 1 1 8 1 1 1 4 1 nyl 1 1 1 1 1 1 1 1 1 1 1 1 1 1 1 1 1 1 1 1 1 1 1 1 1 1 1 1 1 1 1 ",
    "1 1 1 1 1 1 1 1 1 1 1 1 1 1 j 1 1 1 1 1 1 1 1 1 1 1 1 1 1 1 1 1 1 1 1 1 1 1 1 1 1 1 3r 1 ",
    "1 1 1 1 1 1 1 1 1 1 1 1 3 1 1 1 1 1 1 1 1 1 1 1 1 1 1 1 1 1 1 1 1 1 1 1 1 1 1 1 1 1 1 1 1 ",
    "1 1 1 1 1 1 1 1 1 1 1 1 1 1 1 1 1 1 1 1 1 1 1 1 1 1 1 1 1 a 1 1 1 1 2 1 1 1 1 1 1 1 1 4 1 ",
    "1 1 2 1 1 1 3 1 1 1 1 1 1 1 1 1 1 1 1 1 1 1 1 1 1 1 1 5 1 5 1 1 1 1 1 1 1 1 1 1 1 1 1 1 1 ",
    "4 1 1 6 1 5 1 1 1 s 1 h7v q xx 14 3s 10 4c b 1 f 1 7 1 2 1d6 1f 2ct w gw0 w k2o q q q q q ",
    "q 1 1 2 2 1 2 2 2 4 1 8 q q q 2 1 4 2 8 1 7 r 2 1 4 1 5 1 1 3 7 r q q q q q q q q q q q u ",
    "p x p x p x p x p x 1 3ed y 1la q 6 q 6 q"])

/-- The lower-case code points. -/
def lowerCase : Table :=
  .ofText (String.join [
    "2p q 1b 1 a 1 4 1 10 o 1 8 1 1 1 1 1 1 1 1 1 1 1 1 1 1 1 1 1 1 1 1 1 1 1 1 1 1 1 1 1 1 1 ",
    "1 1 1 1 1 1 1 1 1 1 1 1 1 1 1 1 1 1 1 1 1 1 1 1 2 1 1 1 1 1 1 1 1 1 1 1 1 1 1 1 2 1 1 1 1 ",
    "1 1 1 1 1 1 1 1 1 1 1 1 1 1 1 1 1 1 1 1 1 1 1 1 1 1 1 1 1 1 1 1 1 1 1 1 1 1 1 1 1 1 2 1 1 ",
    "1 1 3 2 1 1 1 2 1 3 2 4 1 2 1 3 3 2 1 2 1 1 1 1 1 2 1 1 2 1 1 2 1 3 1 1 1 2 2 2 3 6 1 2 1 ",
    "2 1 1 1 1 1 1 1 1 1 1 1 1 1 1 1 1 2 1 1 1 1 1 1 1 1 1 1 1 1 1 1 1 1 1 2 2 1 1 1 3 1 1 1 1 ",
    "1 1 1 1 1 1 1 1 1 1 1 1 1 1 1 1 1 1 1 1 1 1 1 1 1 1 1 1 1 1 1 1 1 1 1 1 1 1 1 1 1 1 1 1 1 ",
    "1 1 1 1 1 1 1 1 1 7 2 1 2 2 1 1 4 1 1 1 1 1 1 1 1 1x 1 10 7 2 u 5 2o 1 17 1 1 1 3 1 2 4 i ",
    "1 r z 1 2 3 3 1 1 1 1 1 1 1 1 1 1 1 1 1 1 1 1 1 1 1 1 1 1 1 5 1 1 2 1 2 2 1f 1c 1 1 1 1 1 ",
    "1 1 1 1 1 1 1 1 1 1 1 1 1 1 1 1 1 1 1 1 1 1 1 1 1 1 1 1 1 9 1 1 1 1 1 1 1 1 1 1 1 1 1 1 1 ",
    "1 1 1 1 1 1 1 1 1 1 1 1 1 1 1 1 1 1 1 1 1 1 1 1 1 1 1 1 1 1 1 1 1 1 1 1 1 1 2 1 1 1 1 1 1 ",
    "1 1 1 1 1 1 2 1 1 1 1 1 1 1 1 1 1 1 1 1 1 1 1 1 1 1 1 1 1 1 1 1 1 1 1 1 1 1 1 1 1 1 1 1 1 ",
    "1 1 1 1 1 1 1 1 1 1 1 1 1 1 1 1 1 1 1 1 1 1 1 1 1 1 1 1 1 1 1 1 1 1 1 1 1 1 1 1 1 1 1 1 1 ",
    "1 1 1 1 1 1 1 1 1 1 1 1 1 1c 15 287 17 1 4 l4 6 1oi 9 3b 5c 1t 1 1 1 1 1 1 1 1 1 1 1 1 1 ",
    "1 1 1 1 1 1 1 1 1 1 1 1 1 1 1 1 1 1 1 1 1 1 1 1 1 1 1 1 1 1 1 1 1 1 1 1 1 1 1 1 1 1 1 1 1 ",
    "1 1 1 1 1 1 1 1 1 1 1 1 1 1 1 1 1 1 1 1 1 1 1 1 1 1 1 1 1 1 1 1 1 1 1 1 1 1 1 1 1 1 1 1 1 ",
    "1 1 1 1 1 1 1 1 1 1 1 1 1 1 1 1 1 1 1 1 1 1 1 1 1 1 1 1 1 1 1 1 1 1 1 1 1 1 1 1 1 1 1 1 1 ",
    "9 1 1 1 1 1 1 1 1 1 1 1 1 1 1 1 1 1 1 1 1 1 1 1 1 1 1 1 1 1 1 1 1 1 1 1 1 1 1 1 1 1 1 1 1 ",
    "1 1 1 1 1 1 1 1 1 1 1 1 1 1 1 1 1 1 1 1 1 1 1 1 1 1 1 1 1 1 1 1 1 1 1 1 1 1 1 1 1 1 1 1 1 ",
    "1 1 1 1 1 1 1 1 9 8 6 a 8 8 8 8 6 a 8 8 8 8 e 2 8 8 8 8 8 8 5 1 2 6 1 3 3 1 2 8 4 2 2 8 8 ",
    "a 3 1 2 3d 1 d 1 g d 31 1 3 2 3 1 r 1 4 1 4 1 2 2 8 4 4 1 x g 4 1 nf q 1fq 1c 1 1 3 2 1 1 ",
    "1 1 1 1 4 1 1 2 1 8 3 1 1 1 1 1 1 1 1 1 1 1 1 1 1 1 1 1 1 1 1 1 1 1 1 1 1 1 1 1 1 1 1 1 1 ",
    "1 1 1 1 1 1 1 1 1 1 1 1 1 1 1 1 1 1 1 1 1 1 1 1 1 1 1 1 1 1 1 1 1 1 1 1 1 1 1 1 1 1 1 1 1 ",
    "1 1 1 1 1 1 1 1 1 1 1 1 1 1 1 1 1 1 1 2 7 1 1 1 4 1 c 12 1 1 5 1 nwz 1 1 1 1 1 1 1 1 1 1 ",
    "1 1 1 1 1 1 1 1 1 1 1 1 1 1 1 1 1 1 1 1 1 1 1 1 1 1 1 1 1 1 1 1 1 1 1 j 1 1 1 1 1 1 1 1 1 ",
    "1 1 1 1 1 1 1 1 1 1 1 1 1 1 1 1 1 3 3p 1 1 1 1 1 1 1 1 1 1 1 1 3 1 1 1 1 1 1 1 1 1 1 1 1 ",
    "1 1 1 1 1 1 1 1 1 1 1 1 1 1 1 1 1 1 1 1 1 1 1 1 1 1 1 1 1 1 1 1 1 1 1 1 1 1 1 1 1 1 1 1 1 ",
    "1 1 1 1 a 1 1 1 1 2 1 1 1 1 1 1 1 1 1 4 1 1 1 2 1 1 3 1 1 1 1 1 1 1 1 1 1 1 1 1 1 1 1 1 1 ",
    "1 1 5 1 5 1 1 1 1 1 1 1 1 1 1 1 1 1 1 1 4 1 1 1 6 1 1 1 1 1 1 1 1 1 o 3 1 1 1 3 mt 17 1 e ",
    "6 28 fnk 7 c 5 tl q y5 14 3s 10 4b b 1 f 1 7 1 2 cj 1 2 3 1 16 1 9 zp 1f 2bx w gw0 w k2i ",
    "q q 7 1 i q q q 4 1 1 1 7 1 b q q q q q q q q q q q q q q q q q s s p 1 6 q p 1 6 q p 1 6 ",
    "q p 1 6 q p 1 6 1 1 1f8 a 1 k 6 6 79 1q 1pw y"])

end Reshape.Casing
