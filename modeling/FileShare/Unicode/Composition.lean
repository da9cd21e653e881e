import FileShare.Unicode.Table

/-!
# Composed characters

Canonical decomposition and composition.  A text is in composed form when it
equals its image under `compose`: characters are taken apart, marks are put in
the order of their classes, and each starter is joined with the marks that
combine with it.  The syllables of Hangul are composed by arithmetic.  The
tables hold the decompositions that composition undoes, the other ones, and the
combining classes; they follow version 17 of the standard.
-/

set_option autoImplicit false

namespace FileShare.Unicode

/-- The composite characters with the two characters that they are made of: the
distance from the composite before, and the two numbers. -/
def compositeLines : List String :=
  ["5c 1t lc 1 1t ld 1 1t le 1 1t lf 1 1t lk 1 1t lm 2 1v mf 1 1x lc 1 1x ld 1 1x le 1 1x lk",
   "1 21 lc 1 21 ld 1 21 le 1 21 lk 2 26 lf 1 27 lc 1 27 ld 1 27 le 1 27 lf 1 27 lk 3 2d lc",
   "1 2d ld 1 2d le 1 2d lk 1 2h ld 3 2p lc 1 2p ld 1 2p le 1 2p lf 1 2p lk 1 2p lm 2 2r mf",
   "1 2t lc 1 2t ld 1 2t le 1 2t lk 1 2x lc 1 2x ld 1 2x le 1 2x lk 2 32 lf 1 33 lc 1 33 ld",
   "1 33 le 1 33 lf 1 33 lk 3 39 lc 1 39 ld 1 39 le 1 39 lk 1 3d ld 2 3d lk 1 1t lg 1 2p lg",
   "1 1t li 1 2p li 1 1t mg 1 2p mg 1 1v ld 1 2r ld 1 1v le 1 2r le 1 1v lj 1 2r lj 1 1v lo",
   "1 2r lo 1 1w lo 1 2s lo 3 1x lg 1 2t lg 1 1x li 1 2t li 1 1x lj 1 2t lj 1 1x mg 1 2t mg",
   "1 1x lo 1 2t lo 1 1z le 1 2v le 1 1z li 1 2v li 1 1z lj 1 2v lj 1 1z mf 1 2v mf 1 20 le",
   "1 2w le 3 21 lf 1 2x lf 1 21 lg 1 2x lg 1 21 li 1 2x li 1 21 mg 1 2x mg 1 21 lj 4 22 le",
   "1 2y le 1 23 mf 1 2z mf 2 24 ld 1 30 ld 1 24 mf 1 30 mf 1 24 lo 1 30 lo 5 26 ld 1 32 ld",
   "1 26 mf 1 32 mf 1 26 lo 1 32 lo 4 27 lg 1 33 lg 1 27 li 1 33 li 1 27 ln 1 33 ln 3 2a ld",
   "1 36 ld 1 2a mf 1 36 mf 1 2a lo 1 36 lo 1 2b ld 1 37 ld 1 2b le 1 37 le 1 2b mf 1 37 mf",
   "1 2b lo 1 37 lo 1 2c mf 1 38 mf 1 2c lo 1 38 lo 3 2d lf 1 39 lf 1 2d lg 1 39 lg 1 2d li",
   "1 39 li 1 2d lm 1 39 lm 1 2d ln 1 39 ln 1 2d mg 1 39 mg 1 2f le 1 3b le 1 2h le 1 3d le",
   "1 2h lk 1 2i ld 1 3e ld 1 2i lj 1 3e lj 1 2i lo 1 3e lo y 27 m3 1 33 m3 e 2d m3 1 39 m3",
   "t 1t lo 1 2p lo 1 21 lo 1 2x lo 1 27 lo 1 33 lo 1 2d lo 1 39 lo 1 64 lg 1 70 lg 1 64 ld",
   "1 70 ld 1 64 lo 1 70 lo 1 64 lc 1 70 lc 2 5g lg 1 6c lg 1 fa lg 1 fb lg 1 5i lg 1 6e lg",
   "3 1z lo 1 2v lo 1 23 lo 1 2z lo 1 27 mg 1 33 mg 1 dm lg 1 dn lg 1 c7 lo 1 ia lo 1 2y lo",
   "4 1z ld 1 2v ld 3 26 lc 1 32 lc 1 5h ld 1 6d ld 1 5i ld 1 6e ld 1 60 ld 1 6w ld 1 1t lr",
   "1 2p lr 1 1t lt 1 2p lt 1 1x lr 1 2t lr 1 1x lt 1 2t lt 1 21 lr 1 2x lr 1 21 lt 1 2x lt",
   "1 27 lr 1 33 lr 1 27 lt 1 33 lt 1 2a lr 1 36 lr 1 2a lt 1 36 lt 1 2d lr 1 39 lr 1 2d lt",
   "1 39 lt 1 2b me 1 37 me 1 2c me 1 38 me 3 20 lo 1 2w lo 7 1t lj 1 2p lj 1 1x mf 1 2t mf",
   "1 5y lg 1 6u lg 1 5x lg 1 6t lg 1 27 lj 1 33 lj 1 fi lg 1 fj lg 1 2h lg 1 3d lg 9e 4o ld",
   "1 pd ld 2 ph ld 1 pj ld 1 pl ld 2 pr ld 2 px ld 1 q1 ld 1 qy ld q pl lk 1 px lk 1 q9 ld",
   "1 qd ld 1 qf ld 1 qh ld 1 qz ld q qh lk 1 qt lk 1 qn ld 1 qt ld 1 qx ld 5 r6 ld 1 r6 lk",
   "18 t1 lc 1 t1 lk 2 sz ld 4 sm lk 5 t6 ld 1 t4 lc 1 tf li b t4 li w u0 li n tx lc 1 tx lk",
   "2 tv ld 4 uu lk 5 u2 ld 1 u0 lc 1 ub li o vo lr 1 vp lr 22 t2 li 1 ty li e sw li 1 ts li",
   "1 sw lk 1 ts lk 3 t1 li 1 tx li 3 yg lk 1 yh lk 1 t2 lk 1 ty lk 1 t3 lk 1 tz lk 3 t4 lg",
   "1 u0 lg 1 t4 lk 1 u0 lk 1 ta lk 1 u6 lk 3 yw lk 1 yx lk 1 tp lk 1 ul lk 1 tf lg 1 ub lg",
   "1 tf lk 1 ub lk 1 tf ln 1 ub ln 1 tj lk 1 uf lk 3 tn lk 1 uj lk 89 17r 18z 1 17r 190 1",
   "18o 190 1 17r 191 1 18q 190 4a 1cl 190 2 1c1 190 h 1ci 190 gm 1t4 1to 8 1tc 1to 3 1tf",
   "1to 47 1xj 1xa 1 1xj 1xz ak 287 28m 3 287 27y 1 287 28n 20 2aa 2c7 1i 2bq 2bi 1 2br 2bi",
   "1 2bq 2c7 3g 2fa 2fq 3c 2in 2j9 7 2iu 2j9 1 2iu 2ja 2 2iu 2iq 1 2iy 2j9 3j 2me 2m6 1 2mf",
   "2m6 1 2me 2mv 3y 2qh 2q2 2 2qh 2q7 1 2qk 2q2 1 2qh 2qn g8 36t 372 25c 5c5 5dh 2 5c7 5dh",
   "2 5c9 5dh 2 5cb 5dh 2 5cd 5dh 4 5ch 5dh 15 5dm 5dh 2 5do 5dh 3 5dq 5dh 1 5dr 5dh 2 5du",
   "5dh jh 1t md 1 2p md 1 1u lj 1 2q lj 1 1u mb 1 2q mb 1 1u mp 1 2q mp 1 5j ld 1 6f ld 1",
   "1w lj 1 2s lj 1 1w mb 1 2s mb 1 1w mp 1 2s mp 1 1w mf 1 2s mf 1 1w ml 1 2s ml 1 7m lc 1",
   "7n lc 1 7m ld 1 7n ld 1 1x ml 1 2t ml 1 1x mo 1 2t mo 1 fc li 1 fd li 1 1y lj 1 2u lj 1",
   "1z lg 1 2v lg 1 20 lj 1 2w lj 1 20 mb 1 2w mb 1 20 lk 1 2w lk 1 20 mf 1 2w mf 1 20 mm 1",
   "2w mm 1 21 mo 1 2x mo 1 5r ld 1 6n ld 1 23 ld 1 2z ld 1 23 mb 1 2z mb 1 23 mp 1 2z mp 1",
   "24 mb 1 30 mb 1 5yu lg 1 5yv lg 1 24 mp 1 30 mp 1 24 ml 1 30 ml 1 25 ld 1 31 ld 1 25 lj",
   "1 31 lj 1 25 mb 1 31 mb 1 26 lj 1 32 lj 1 26 mb 1 32 mb 1 26 mp 1 32 mp 1 26 ml 1 32 ml",
   "1 5x ld 1 6t ld 1 5x lk 1 6t lk 1 98 lc 1 99 lc 1 98 ld 1 99 ld 1 28 ld 1 34 ld 1 28 lj",
   "1 34 lj 1 2a lj 1 36 lj 1 2a mb 1 36 mb 1 5zu lg 1 5zv lg 1 2a mp 1 36 mp 1 2b lj 1 37",
   "lj 1 2b mb 1 37 mb 1 9m lj 1 9n lj 1 9s lj 1 9t lj 1 602 lj 1 603 lj 1 2c lj 1 38 lj 1",
   "2c mb 1 38 mb 1 2c mp 1 38 mp 1 2c ml 1 38 ml 1 2d mc 1 39 mc 1 2d mo 1 39 mo 1 2d ml 1",
   "39 ml 1 a0 ld 1 a1 ld 1 a2 lk 1 a3 lk 1 2e lf 1 3a lf 1 2e mb 1 3a mb 1 2f lc 1 3b lc 1",
   "2f ld 1 3b ld 1 2f lk 1 3b lk 1 2f lj 1 3b lj 1 2f mb 1 3b mb 1 2g lj 1 3c lj 1 2g lk 1",
   "3c lk 1 2h lj 1 3d lj 1 2i le 1 3e le 1 2i mb 1 3e mb 1 2i mp 1 3e mp 1 2w mp 1 38 lk 1",
   "3b lm 1 3d lm 2 an lj 5 1t mb 1 2p mb 1 1t ll 1 2p ll 1 5e ld 1 6a ld 1 5e lc 1 6a lc 1",
   "5e ll 1 6a ll 1 5e lf 1 6a lf 1 61s le 1 61t le 1 76 ld 1 77 ld 1 76 lc 1 77 lc 1 76 ll",
   "1 77 ll 1 76 lf 1 77 lf 1 61s li 1 61t li 1 1x mb 1 2t mb 1 1x ll 1 2t ll 1 1x lf 1 2t",
   "lf 1 5m ld 1 6i ld 1 5m lc 1 6i lc 1 5m ll 1 6i ll 1 5m lf 1 6i lf 1 62g le 1 62h le 1",
   "21 ll 1 2x ll 1 21 mb 1 2x mb 1 27 mb 1 33 mb 1 27 ll 1 33 ll 1 5w ld 1 6s ld 1 5w lc 1",
   "6s lc 1 5w ll 1 6s ll 1 5w lf 1 6s lf 1 630 le 1 631 le 1 bk ld 1 bl ld 1 bk lc 1 bl lc",
   "1 bk ll 1 bl ll 1 bk lf 1 bl lf 1 bk mb 1 bl mb 1 2d mb 1 39 mb 1 2d ll 1 39 ll 1 bz ld",
   "1 c0 ld 1 bz lc 1 c0 lc 1 bz ll 1 c0 ll 1 bz lf 1 c0 lf 1 bz mb 1 c0 mb 1 2h lc 1 3d lc",
   "1 2h mb 1 3d mb 1 2h ll 1 3d ll 1 2h lf 1 3d lf 7 q9 lv 1 q9 lw 1 64g lc 1 64h lc 1 64g",
   "ld 1 64h ld 1 64g n6 1 64h n6 1 pd lv 1 pd lw 1 64o lc 1 64p lc 1 64o ld 1 64p ld 1 64o",
   "n6 1 64p n6 1 qd lv 1 qd lw 1 64w lc 1 64x lc 1 64w ld 1 64x ld 3 ph lv 1 ph lw 1 654 lc",
   "1 655 lc 1 654 ld 1 655 ld 3 qf lv 1 qf lw 1 65c lc 1 65d lc 1 65c ld 1 65d ld 1 65c n6",
   "1 65d n6 1 pj lv 1 pj lw 1 65k lc 1 65l lc 1 65k ld 1 65l ld 1 65k n6 1 65l n6 1 qh lv 1",
   "qh lw 1 65s lc 1 65t lc 1 65s ld 1 65t ld 1 65s n6 1 65t n6 1 pl lv 1 pl lw 1 660 lc 1",
   "661 lc 1 660 ld 1 661 ld 1 660 n6 1 661 n6 1 qn lv 1 qn lw 1 668 lc 1 669 lc 1 668 ld 1",
   "669 ld 3 pr lv 1 pr lw 1 66g lc 1 66h lc 1 66g ld 1 66h ld 3 qt lv 1 qt lw 1 66o lc 1",
   "66p lc 1 66o ld 1 66p ld 1 66o n6 1 66p n6 2 px lw 2 66x lc 2 66x ld 2 66x n6 1 qx lv 1",
   "qx lw 1 674 lc 1 675 lc 1 674 ld 1 675 ld 1 674 n6 1 675 n6 1 q1 lv 1 q1 lw 1 67c lc 1",
   "67d lc 1 67c ld 1 67d ld 1 67c n6 1 67d n6 1 q9 lc 2 qd lc 2 qf lc 2 qh lc 2 qn lc 2 qt",
   "lc 2 qx lc 4 64g n9 1 64h n9 1 64i n9 1 64j n9 1 64k n9 1 64l n9 1 64m n9 1 64n n9 1 64o",
   "n9 1 64p n9 1 64q n9 1 64r n9 1 64s n9 1 64t n9 1 64u n9 1 64v n9 1 65c n9 1 65d n9 1",
   "65e n9 1 65f n9 1 65g n9 1 65h n9 1 65i n9 1 65j n9 1 65k n9 1 65l n9 1 65m n9 1 65n n9",
   "1 65o n9 1 65p n9 1 65q n9 1 65r n9 1 674 n9 1 675 n9 1 676 n9 1 677 n9 1 678 n9 1 679",
   "n9 1 67a n9 1 67b n9 1 67c n9 1 67d n9 1 67e n9 1 67f n9 1 67g n9 1 67h n9 1 67i n9 1",
   "67j n9 1 q9 li 1 q9 lg 1 67k n9 1 q9 n9 1 q4 n9 2 q9 n6 1 69i n9 1 pd li 1 pd lg 1 pd lc",
   "2 pd n9 5 4o n6 1 67o n9 1 qf n9 1 q6 n9 2 qf n6 1 69y n9 1 ph lc 2 pj lc 2 pj n9 1 69r",
   "lc 1 69r ld 1 69r n6 1 qh li 1 qh lg 1 qy lc 4 qh n6 1 qy n6 1 pl li 1 pl lg 1 pl lc 3",
   "6bi lc 1 6bi ld 1 6bi n6 1 qt li 1 qt lg 1 qz lc 2 qp lv 1 qp lw 1 qt n6 1 qz n6 1 px li",
   "1 px lg 1 px lc 2 pt lw 1 4o lc 5 67w n9 1 qx n9 1 r2 n9 2 qx n6 1 6ba n9 1 pr lc 2 q1",
   "lc 2 q1 n9 bi 6mo mw 1 6mq mw j 6ms mw v 6og mw 1 6ok mw 1 6oi mw 1h 6pv mw 5 6q0 mw 3",
   "6q3 mw o 6qr mw 2 6qt mw r 6rg mw 3 6rn mw 3 6rp mw 2 6rs mw n 1p mw 2 6sh mw b 6rx mw 1",
   "1o mw 1 1q mw 1 6sk mw 1 6sl mw 3 6sy mw 1 6sz mw 3 6t2 mw 1 6t3 mw 7 6t6 mw 1 6t7 mw 3",
   "6te mw 1 6tf mw 3 6ti mw 1 6tj mw z 6ua mw 1 6ug mw 1 6uh mw 1 6uj mw 1d 6t8 mw 1 6t9 mw",
   "1 6tt mw 1 6tu mw 7 6uq mw 1 6ur mw 1 6us mw 1 6ut mw 2n3 9jf 9ll 2 9jh 9ll 2 9jj 9ll 2",
   "9jl 9ll 2 9jn 9ll 2 9jp 9ll 2 9jr 9ll 2 9jt 9ll 2 9jv 9ll 2 9jx 9ll 2 9jz 9ll 2 9k1 9ll",
   "3 9k4 9ll 2 9k6 9ll 2 9k8 9ll 7 9kf 9ll 1 9kf 9lm 2 9ki 9ll 1 9ki 9lm 2 9kl 9ll 1 9kl",
   "9lm 2 9ko 9ll 1 9ko 9lm 2 9kr 9ll 1 9kr 9lm n 9ja 9ll a 9lp 9ll e 9m3 9ll 2 9m5 9ll 2",
   "9m7 9ll 2 9m9 9ll 2 9mb 9ll 2 9md 9ll 2 9mf 9ll 2 9mh 9ll 2 9mj 9ll 2 9ml 9ll 2 9mn 9ll",
   "2 9mp 9ll 3 9ms 9ll 2 9mu 9ll 2 9mw 9ll 7 9n3 9ll 1 9n3 9lm 2 9n6 9ll 1 9n6 9lm 2 9n9",
   "9ll 1 9n9 9lm 2 9nc 9ll 1 9nc 9lm 2 9nf 9ll 1 9nf 9lm n 9ly 9ll 3 9nz 9ll 1 9o0 9ll 1",
   "9o1 9ll 1 9o2 9ll 4 9od 9ll 1617 1fpu lj r 1fq2 lj 246 1huh 1hve 2 1huj 1hve f 1hut 1hve",
   "3n 1hyp 1hyf 1 1hyq 1hyf f0 1idj 1ida 1 1idj 1idz 1j 1if6 1ih5 2 1if8 1igr 9 1iff 1igy 3",
   "1ifk 1ih5 1g 1igy 1igy 2 1igy 1igo 1 1igy 1ih5 6r 1int 1inu 1 1int 1ink 2 1int 1inx 70",
   "1iuw 1iun 1 1iux 1iun ot 1jjp 1jjk e7d 1xr2 1xr2 1 1xr2 1xrd 1 1xr2 1xr3 1 1xrd 1xr3 1",
   "1xr2 1xr4 1 1xr5 1xr3 1 1xr6 1xr3 1 1xr5 1xr4 2f4 206f 206f 1 206b 206f 1 206h 206f"]

/-- The characters that are taken apart and not joined again, in the same form; a
second number of zero means that there is one character only. -/
def singletonLines : List String :=
  ["n4 lc 0 1 ld 0 2 lv 0 1 lk ld 1c jd 0 a 1n 0 9 53 0 15d 1sl 1to 1 1sm 1to 1 1sn 1to 1",
   "1ss 1to 1 1sx 1to 1 1sy 1to 1 1t7 1to 1 1tb 1to 3h 1wh 1x8 1 1wi 1x8 2 1wv 1x8 2c 20i",
   "20s 3 20o 20s z 1zq 20s 1 1zr 20s 1 1zw 20s 3 20b 20s 72 275 27w 1 276 27w rq 30i 33r a",
   "30s 33r 5 30x 33r 5 312 33r 5 317 33r d 30g 33p a 31t 31u 2 31t 31w 1 33m 328 2 33n 328",
   "9 31t 328 i 32q 33r a 330 33r 5 335 33r 5 33a 33r 5 33f 33r d 32o 33p 33s q4 0 2 q5 0 2",
   "q6 0 2 q7 0 2 r0 0 2 r1 0 2 r2 0 1q p2 0 3 qh 0 b p4 0 2 p5 0 8 pc 0 8 p6 0 8 q8 0 8 pa",
   "0 3 p1 0 1 2o 0 a p8 0 2 pb 0 2 50 0 3 6bm 0 1 6bn 0 85 q1 0 4 23 0 1 5h 0 e6 9hk 0 1",
   "9hl 0 1iq 8gt mw 14pw rpk 0 1 kc4 0 1 s7e 0 1 rt4 0 1 lw1 0 1 fg2 0 1 gkl 0 1 vj0 0 1",
   "vj0 0 1 hn5 0 1 ssx 0 1 gw7 0 1 hmw 0 1 jcm 0 1 ne1 0 1 p6t 0 1 qin 0 1 qt6 0 1 r20 0 1",
   "sjz 0 1 kxu 0 1 ljv 0 1 mah 0 1 mvy 0 1 q4d 0 1 sq2 0 1 uep 0 1 fia 0 1 ghh 0 1 l50 0 1",
   "mjf 0 1 qi5 0 1 v8e 0 1 ifk 0 1 m3v 0 1 qfh 0 1 r50 0 1 jih 0 1 pnc 0 1 qvz 0 1 iq2 0 1",
   "kd3 0 1 lm2 0 1 mpo 0 1 slq 0 1 fpi 0 1 g53 0 1 gda 0 1 jwk 0 1 l3n 0 1 mj4 0 1 nhj 0 1",
   "pa9 0 1 qh2 0 1 qjg 0 1 s1b 0 1 tv6 0 1 upb 0 1 v7e 0 1 nt8 0 1 nzz 0 1 otc 0 1 q15 0 1",
   "t1g 0 1 vb3 0 1 rfa 0 1 hjz 0 1 iro 0 1 okg 0 1 pdq 0 1 mle 0 1 nuy 0 1 rsy 0 1 ttj 0 1",
   "hjs 0 1 i8y 0 1 kyb 0 1 lp6 0 1 lxr 0 1 oq7 0 1 oxj 0 1 tor 0 1 gcy 0 1 pe3 0 1 g64 0 1",
   "g5o 0 1 o4c 0 1 ou6 0 1 q29 0 1 tpx 0 1 rk0 0 1 jin 0 1 kxu 0 1 rge 0 1 fg9 0 1 i5j 0 1",
   "iz6 0 1 mtj 0 1 n74 0 1 gev 0 1 nwb 0 1 fr3 0 1 iw9 0 1 ff1 0 1 lho 0 1 k1k 0 1 opu 0 1",
   "gjn 0 1 hge 0 1 ni9 0 1 q4p 0 1 re2 0 1 la2 0 1 sds 0 1 lfs 0 1 jjy 0 1 put 0 1 jog 0 1",
   "n6t 0 1 fji 0 1 g2x 0 1 g5l 0 1 kn5 0 1 oo7 0 1 prj 0 1 rf6 0 1 ssv 0 1 gdx 0 1 gn6 0 1",
   "ho3 0 1 ir0 0 1 k3p 0 1 m4e 0 1 nxm 0 1 tkd 0 1 ui2 0 1 vbr 0 1 vda 0 1 gbf 0 1 kau 0 1",
   "l87 0 1 sbm 0 1 ino 0 1 j9s 0 1 jcw 0 1 jve 0 1 lyb 0 1 mdl 0 1 n0p 0 1 o22 0 1 ovo 0 1",
   "pdb 0 1 s9y 0 1 q9a 0 1 sgz 0 1 t3e 0 1 g7r 0 1 gbn 0 1 gql 0 1 ma0 0 1 r0i 0 1 re2 0 1",
   "iq1 0 1 iyd 0 1 jnf 0 1 l9q 0 1 oji 0 1 mt1 0 1 fl0 0 1 h6h 0 1 i5j 0 1 iii 0 1 izg 0 1",
   "muq 0 1 mzt 0 1 p7e 0 1 pc6 0 1 svo 0 1 tti 0 1 tvs 0 1 u1k 0 1 fpn 0 1 o1a 0 1 ss4 0 1",
   "trs 0 1 j4x 0 1 fie 0 1 fyy 0 1 i5q 0 1 i7z 0 1 k2h 0 1 kxu 0 1 mha 0 1 ncy 0 1 q9o 0 1",
   "sjg 0 1 vil 0 1 k94 0 1 tny 0 1 gax 0 1 kfv 0 1 kj7 0 1 lkx 0 1 luk 0 1 mx5 0 1 n6h 0 1",
   "nsb 0 1 opc 0 1 u3i 0 1 g31 0 1 je6 0 1 tq0 0 1 fu3 0 1 ie1 0 1 lpm 0 1 sa2 0 1 ivf 0 1",
   "j7o 0 1 kk7 0 1 mtj 0 1 tqe 0 1 g89 0 1 glr 0 1 i91 0 1 k5v 0 1 kem 0 1 ko8 0 1 lid 0 1",
   "mx2 0 1 naa 0 1 p6h 0 1 r0v 0 1 r1d 0 1 sss 0 1 tsy 0 1 gfz 0 1 lve 0 1 gm5 0 1 mhc 0 1",
   "n14 0 1 qgq 0 1 tr7 0 1 uvr 0 1 vbz 0 1 kgn 0 1 lor 0 1 pns 0 1 o97 0 1 obk 0 1 olu 0 1",
   "mo0 0 1 m8p 0 1 riw 0 1 fk0 0 1 px2 0 1 g8q 0 1 g7b 0 1 ip2 0 1 jir 0 1 onq 0 1 i2t 0 1",
   "ljy 0 1 kac 0 1 saj 0 1 qx8 0 1 tot 0 1 r63 0 1 iqb 0 1 g1s 0 1 gxs 0 3 hga 0 2 k8k 0 3",
   "g66 0 1 mqy 0 1 ngq 0 1 ny4 0 1 nz2 0 1 nz9 0 1 o0f 0 1 tw6 0 1 on2 0 1 p8d 0 2 qhe 0 2",
   "rg8 0 3 shk 0 1 sn1 0 4 u7j 0 1 u7w 0 1 u94 0 1 v5g 0 1 sm6 0 1 trr 0 1 fqm 0 1 fzb 0 1",
   "g25 0 1 gcp 0 1 gdg 0 1 ggh 0 1 gwt 0 1 gzq 0 1 h2g 0 1 hfk 0 1 hig 0 1 i90 0 1 i9a 0 1",
   "j2s 0 1 j8o 0 1 j9q 0 1 jci 0 1 k0f 0 1 k4i 0 1 k9d 0 1 kn9 0 1 lmf 0 1 lqy 0 1 lya 0 1",
   "mem 0 1 mjv 0 1 mxu 0 1 ntd 0 1 ny6 0 1 nyh 0 1 nyg 0 1 nyo 0 1 nyu 0 1 nz1 0 1 o0d 0 1",
   "o0e 0 1 o5c 0 1 o75 0 1 og0 0 1 ovo 0 1 ow9 0 1 oxt 0 1 p6a 0 1 pad 0 1 pnx 0 1 prt 0 1",
   "prt 0 1 q53 0 1 r2o 0 1 r6e 0 1 rgh 0 1 ri1 0 1 rtf 0 1 ruw 0 1 sdy 0 1 shk 0 1 tsz 0 1",
   "u0v 0 1 u2j 0 1 j1x 0 1 36cu 0 1 pp4 0 3 ffq 0 1 g51 0 1 g2w 0 1 fpc 0 1 g1x 0 1 g3k 0 1",
   "gcn 0 1 ge2 0 1 gwt 0 1 gut 0 1 gwp 0 1 gyq 0 1 hga 0 1 hir 0 1 hms 0 1 hn8 0 1 huq 0 1",
   "i08 0 1 iqa 0 1 iqh 0 1 iuh 0 1 iwd 0 1 j4o 0 1 j7y 0 1 j60 0 1 j9q 0 1 j8g 0 1 jci 0 1",
   "jec 0 1 jpg 0 1 jrw 0 1 jte 0 1 k0m 0 1 k8k 0 1 kd3 0 1 kd7 0 1 keu 0 1 l89 0 1 la2 0 1",
   "lkx 0 1 lwb 0 1 lvv 0 1 lya 0 1 m5a 0 1 mem 0 1 nmv 0 1 mk5 0 1 mnj 0 1 mqy 0 1 n01 0 1",
   "n46 0 1 n5n 0 1 nbx 0 1 nbz 0 1 ngq 0 1 nh7 0 1 nhw 0 1 nka 0 1 nk0 0 1 nv0 0 1 o8h 0 1",
   "og0 0 1 ol7 0 1 orf 0 1 ovo 0 1 p4u 0 1 pad 0 1 pxu 0 1 q27 0 1 qrd 0 1 r41 0 1 r5y 0 1",
   "r6e 0 1 ren 0 1 rg8 0 1 rez 0 1 rgh 0 1 rge 0 1 rfx 0 1 ri1 0 1 rka 0 1 ruw 0 1 sag 0 1",
   "sj6 0 1 srd 0 1 sxi 0 1 tq4 0 1 tsz 0 1 tw6 0 1 tzv 0 1 u0v 0 1 u17 0 1 u2j 0 1 umq 0 1",
   "vj0 0 1 313e 0 1 3138 0 1 33dh 0 1 brx 0 1 cns 0 1 cop 0 1 39e1 0 1 3bgw 0 1 3i6r 0 1",
   "vgj 0 1 vim 0 1w 15l 14k 2 16a 14n b 161 14x 1 161 14y 1 1dmx 14x 1 1dmx 14y 1 15c 14n 1",
   "15c 14o 1 15c 14s 1 15d 14s 1 15e 14s 1 15f 14s 1 15g 14s 1 15h 14s 1 15i 14s 2 15k 14s",
   "1 15l 14s 1 15m 14s 1 15n 14s 1 15o 14s 2 15q 14s 2 15s 14s 1 15t 14s 2 15v 14s 1 15w",
   "14s 2 15y 14s 1 15z 14s 1 160 14s 1 161 14s 1 162 14s 1 15h 14p 1 15d 14v 1 15n 14v 1",
   "15w 14v 16a8 2jx3 2jxh 1 2jx4 2jxh 1 2jxb 2jxq 1 2jxb 2jxr 1 2jxb 2jxs 1 2jxb 2jxt 1",
   "2jxb 2jxu 2f 2jzt 2jxh 1 2jzu 2jxh 1 2jzv 2jxq 1 2jzw 2jxq 1 2jzv 2jxr 1 2jzw 2jxr 1m4g",
   "fgd 0 1 fg8 0 1 fgh 0 1 2tcy 0 1 fog 0 1 fqm 0 1 fqz 0 1 fsy 0 1 fwa 0 1 fx5 0 1 fzb 0 1",
   "fyn 0 1 ae6 0 1 2ud6 0 1 g25 0 1 g2c 0 1 g2s 0 1 g3b 0 1 2u58 0 1 aex 0 1 g2v 0 1 g3x 0",
   "1 2u6j 0 1 g47 0 1 g4k 0 1 fkc 0 1 g4s 0 1 g51 0 1 3ly7 0 1 g6t 0 1 g77 0 1 afz 0 1 g8r",
   "0 1 g92 0 1 gaa 0 1 gaf 0 1 ahh 0 1 gcn 0 1 gcp 0 1 gdg 0 1 ge2 0 1 ged 0 1 gee 0 1 gev",
   "0 1 gg9 0 1 ggh 0 1 ggq 0 1 ghf 0 1 ghp 0 1 ghr 0 1 ghr 0 1 ghr 0 1 2v58 0 1 m7k 0 1 gju",
   "0 1 gkf 0 1 2vdv 0 1 gkr 0 1 gkx 0 1 gli 0 1 gpq 0 1 gmw 0 1 gnc 0 1 go8 0 1 gpu 0 1 gs6",
   "0 1 gsw 0 1 gur 0 1 gv7 0 1 gw4 0 1 gw4 0 1 gwp 0 1 gx7 0 1 gxf 0 1 gxu 0 1 h7a 0 1 gzq",
   "0 1 h7b 0 1 h1t 0 1 h2s 0 1 g7b 0 1 hke 0 1 hce 0 1 hdg 0 1 he5 0 1 haj 0 1 hf6 0 1 hf5",
   "0 1 hik 0 1 2x9g 0 1 hki 0 1 hkn 0 1 hl2 0 1 hlm 0 1 hlu 0 1 hnm 0 1 2xm0 0 1 2xnu 0 1",
   "hrg 0 1 hsr 0 1 ht3 0 1 hqw 0 1 huu 0 1 aum 0 1 av0 0 1 hzc 0 1 i0u 0 1 i0u 0 1 2y88 0 1",
   "i4j 0 1 i54 0 1 i5j 0 1 i5v 0 1 2yhk 0 1 i67 0 1 i6e 0 1 itv 0 1 i76 0 1 ayp 0 1 i8w 0 1",
   "i9a 0 1 ibk 0 1 ia5 0 1 2z1g 0 1 if7 0 1 2z1i 0 1 ige 0 1 igb 0 1 igs 0 1 ijl 0 1 ijm 0",
   "1 b3j 0 1 ikd 0 1 ilk 0 1 im5 0 1 ind 0 1 b4y 0 1 2zr7 0 1 b5o 0 1 ipc 0 1 ipf 0 1 ipi 0",
   "1 iq2 0 1 3pg2 0 1 iri 0 1 3035 0 1 3035 0 1 poh 0 1 isi 0 1 isi 0 1 b7r 0 1 335k 0 1",
   "3cgq 0 1 iua 0 1 iuj 0 1 b8j 0 1 ivu 0 1 ix9 0 1 ixj 0 1 iyh 0 1 j29 0 1 bay 0 1 ba4 0 1",
   "j2s 0 1 30t0 0 1 j47 0 1 j7s 0 1 j7w 0 1 j7y 0 1 j7w 0 1 j96 0 1 j9q 0 1 jaq 0 1 jac 0 1",
   "jan 0 1 jby 0 1 jci 0 1 jcm 0 1 jdc 0 1 jdn 0 1 jfh 0 1 jht 0 1 jis 0 1 jm8 0 1 31n0 0 1",
   "jlp 0 1 jjw 0 1 jmw 0 1 jnn 0 1 jqc 0 1 31td 0 1 js2 0 1 jph 0 1 jop 0 1 bhq 0 1 ju1 0 1",
   "jum 0 1 jvh 0 1 juf 0 1 bjg 0 1 k0f 0 1 k18 0 1 32mi 0 1 k4j 0 1 kc8 0 1 k7d 0 1 bo9 0 1",
   "k9d 0 1 bns 0 1 bms 0 1 g42 0 1 g45 0 1 kcg 0 1 k9o 0 1 pf1 0 1 deh 0 1 kd3 0 1 kd7 0 1",
   "kdd 0 1 kf2 0 1 ker 0 1 33cz 0 1 bpl 0 1 kje 0 1 kg5 0 1 klu 0 1 kn9 0 1 33hp 0 1 kni 0",
   "1 kkf 0 1 kr8 0 1 brx 0 1 ksi 0 1 kv7 0 1 kx6 0 1 l2g 0 1 33xf 0 1 l3v 0 1 bvc 0 1 l5t 0",
   "1 34br 0 1 l78 0 1 bwu 0 1 l82 0 1 l9b 0 1 la2 0 1 la3 0 1 34p9 0 1 2yvf 0 1 34sa 0 1",
   "le6 0 1 354s 0 1 lhb 0 1 lhp 0 1 lev 0 1 ljq 0 1 lku 0 1 lmf 0 1 lkx 0 1 lm1 0 1 lmg 0 1",
   "lmt 0 1 357i 0 1 lkk 0 1 lrj 0 1 lta 0 1 c37 0 1 lvv 0 1 lvr 0 1 35jl 0 1 lq1 0 1 m0e 0",
   "1 35ni 0 1 35ou 0 1 m2u 0 1 m61 0 1 m5a 0 1 m57 0 1 c5y 0 1 m6i 0 1 m7x 0 1 m7r 0 1 m99",
   "0 1 2u5h 0 1 mdh 0 1 368z 0 1 mfw 0 1 36i3 0 1 mjs 0 1 mk5 0 1 mkw 0 1 36yw 0 1 mm8 0 1",
   "mmt 0 1 3779 0 1 37dg 0 1 mt6 0 1 mtn 0 1 cdo 0 1 mud 0 1 ce0 0 1 ce0 0 1 myv 0 1 mzg 0",
   "1 n01 0 1 n0l 0 1 n2i 0 1 cgr 0 1 n50 0 1 386u 0 1 n5q 0 1 389e 0 1 n74 0 1 2zrz 0 1 nbk",
   "0 1 38v5 0 1 38vs 0 1 38zo 0 1 cn0 0 1 cnc 0 1 nhw 0 1 394j 0 1 394i 0 1 395l 0 1 396b 0",
   "1 nj2 0 1 nj3 0 1 nj3 0 1 nka 0 1 cop 0 1 nm3 0 1 cp2 0 1 cra 0 1 39r1 0 1 nri 0 1 nt8 0",
   "1 nv0 0 1 ctf 0 1 3a5i 0 1 nyu 0 1 3a8q 0 1 3a9x 0 1 o0f 0 1 o2z 0 1 cvj 0 1 o5c 0 1 o5m",
   "0 1 o5r 0 1 3at8 0 1 3b1j 0 1 3b1j 0 1 oa6 0 1 d1e 0 1 3b8r 0 1 og6 0 1 og9 0 1 d2f 0 1",
   "3beo 0 1 onm 0 1 d5s 0 1 oo8 0 1 oo3 0 1 oow 0 1 3c06 0 1 orn 0 1 d8h 0 1 ouf 0 1 ow2 0",
   "1 oxx 0 1 d9w 0 1 3ciw 0 1 3cjr 0 1 dax 0 1 3cnt 0 1 p6i 0 1 3cqm 0 1 p79 0 1 pa2 0 1",
   "pad 0 1 3d22 0 1 3d43 0 1 pcw 0 1 3d7s 0 1 pdc 0 1 33a7 0 1 ded 0 1 pf6 0 1 phf 0 1 dfv",
   "0 1 pj2 0 1 hx1 0 1 3dlz 0 1 3dmd 0 1 33bn 0 1 33bw 0 1 poh 0 1 pok 0 1 sda 0 1 dij 0 1",
   "psh 0 1 psb 0 1 pst 0 1 gc3 0 1 ptd 0 1 ptf 0 1 ptp 0 1 puu 0 1 3ebg 0 1 put 0 1 pwd 0 1",
   "pyb 0 1 q0d 0 1 pwj 0 1 q0t 0 1 q1z 0 1 q53 0 1 pxv 0 1 q16 0 1 q18 0 1 q1o 0 1 3eie 0 1",
   "3eqz 0 1 3emt 0 1 dnv 0 1 q9d 0 1 q9f 0 1 qae 0 1 3g0a 0 1 qck 0 1 3f3g 0 1 dp9 0 1 dpd",
   "0 1 3f75 0 1 3ff6 0 1 dpn 0 1 qj4 0 1 qjg 0 1 qjr 0 1 qjt 0 1 qll 0 1 qko 0 1 qoe 0 1",
   "qn6 0 1 qrd 0 1 qp4 0 1 qqz 0 1 qrq 0 1 dsn 0 1 qu9 0 1 qv5 0 1 dtl 0 1 qxs 0 1 qxv 0 1",
   "3giv 0 1 r13 0 1 r1a 0 1 dv9 0 1 r22 0 1 aez 0 1 3gz2 0 1 3h46 0 1 dz2 0 1 dzb 0 1 rds 0",
   "1 rfx 0 1 rka 0 1 rpx 0 1 3hrc 0 1 rsb 0 1 rsx 0 1 rvf 0 1 rxz 0 1 3i9b 0 1 2upw 0 1 s0b",
   "0 1 rzw 0 1 s1c 0 1 2uvy 0 1 s7o 0 1 sag 0 1 3jki 0 1 3jl9 0 1 sk4 0 1 smp 0 1 snl 0 1",
   "3ju6 0 1 snv 0 1 svs 0 1 t07 0 1 t08 0 1 sxo 0 1 t89 0 1 t91 0 1 3ksa 0 1 tjf 0 1 ej9 0",
   "1 tkn 0 1 3l2v 0 1 eli 0 1 ts3 0 1 iia 0 1 tur 0 1 3ltx 0 1 3lzu 0 1 epa 0 1 epi 0 1 u00",
   "0 1 3mdm 0 1 er6 0 1 3mhi 0 1 u17 0 1 u17 0 1 u21 0 1 3mpi 0 1 u76 0 1 eur 0 1 u95 0 1",
   "ucn 0 1 ude 0 1 uf2 0 1 ez2 0 1 3nsg 0 1 umq 0 1 uv4 0 1 v0d 0 1 f66 0 1 f71 0 1 v3b 0 1",
   "3owe 0 1 f7c 0 1 3oxx 0 1 3p5a 0 1 3p8x 0 1 vcr 0 1 f9y 0 1 veh 0 1 vem 0 1 vet 0 1 vf3",
   "0 1 vfa 0 1 vgb 0 1 3pxc 0"]

/-- The ranges of characters with a combining class other than zero: the distance,
the length less one, and the class. -/
def classLines : List String :=
  ["lc k 6e 0 0 6g 0 3 64 0 0 6g 0 0 60 0 4 64 0 1 5m 0 3 64 0 1 5m 0 a 64 0 4 1 0 3 64 0 7",
   "6e 0 0 6o 0 0 6e 0 2 64 0 2 6e 0 1 64 1 2 6e 0 3 64 0 0 6e 0 0 6g 0 1 64 0 0 6e 0 0 6h 0",
   "1 6i 0 0 6h 0 1 6i 0 0 6h 0 c 6e 7n 4 6e 7d 0 64 0 3 6e 0 0 64 0 2 6e 0 0 66 0 0 64 0 5",
   "6e 0 5 64 0 1 6e 0 0 64 0 1 6e 0 0 66 0 0 6c 0 0 6e 0 0 a 0 0 b 0 0 c 0 0 d 0 0 e 0 0 f",
   "0 0 g 0 0 h 0 0 i 0 1 j 0 0 k 0 0 l 0 0 m 1 0 n 1 0 o 0 0 p 1 0 6e 0 0 64 1 0 i 20 7 6e",
   "0 0 u 0 0 v 0 0 w 1c 0 r 0 0 s 0 0 t 0 0 u 0 0 v 0 0 w 0 0 x 0 0 y 0 1 6e 0 1 64 0 4 6e",
   "0 0 64 0 1 6e 0 0 64 g 0 z 2t 6 6e 2 3 6e 0 0 64 0 0 6e 2 1 6e 1 0 64 0 1 6e 0 0 64 z 0",
   "10 u 0 6e 0 0 64 0 1 6e 0 0 64 0 1 6e 0 2 64 0 0 6e 0 1 64 0 0 6e 0 0 64 0 2 6e 0 0 64 0",
   "0 6e 0 0 64 0 0 6e 0 0 64 0 0 6e 0 0 64 0 1 6e 4g 6 6e 0 0 64 0 0 6e 9 0 64 o 3 6e 1 8",
   "6e 1 2 6e 1 4 6e 17 2 64 1n 1 6e 0 2 64 0 3 6e 16 4 6e 0 4 64 0 d 6e 1 0 64 0 1 6e 0 0",
   "64 0 1 6e 0 0 64 0 2 6e 0 2 64 0 0 r 0 0 s 0 0 t 0 2 6e 0 0 64 0 1 6e 0 1 64 0 4 6e 1o 0",
   "7 g 0 9 3 0 6e 0 0 64 0 1 6e 2v 0 7 g 0 9 1c 0 6e 1p 0 7 g 0 9 32 0 7 g 0 9 32 0 7 g 0 9",
   "3j 0 9 32 0 7 g 0 9 7 0 2c 0 0 2j 2t 0 7 g 0 9 31 1 9 g 0 9 3g 0 9 31 1 2v 0 0 9 d 3 2z",
   "30 1 3a 0 0 9 d 3 3e 24 1 64 r 0 64 1 0 64 1 0 60 1j 0 3l 0 0 3m 1 0 3o 5 3 3m 2 0 3m 1",
   "1 6e 0 0 9 1 1 6e 1q 0 64 34 0 7 1 1 9 2a 0 64 jz 2 6e qc 1 9 u 0 9 4d 0 9 a 0 6e 5n 0",
   "6c 3z 0 66 0 0 6e 0 0 64 63 0 6e 0 0 64 1z 0 9 k 7 6e 2 0 64 1c 4 6e 0 5 64 0 1 6e 0 0",
   "64 1 1 64 0 1 6e 0 1 64 0 4 6e 0 0 64 0 h 6e 0 0 64 2 5 6e 0 0 64 0 3 6e 0 0 6i 20 0 7 f",
   "0 9 12 0 6e 0 0 64 0 6 6e 1i 1 9 1m 0 7 b 1 9 1v 0 7 48 2 6e 1 0 1 0 4 64 0 1 6e 0 3 64",
   "0 0 6e 1 6 1 4 0 64 6 0 6e 3 1 6e 5i 1 6e 0 0 64 0 6 6e 0 0 64 0 1 6e 0 0 6i 0 0 5y 0 0",
   "64 0 0 5m 0 10 6e 0 0 6g 0 1 6c 0 0 64 0 0 62 0 0 6e 0 0 6h 0 0 64 0 0 6e 0 0 64 k0 1 6e",
   "0 1 1 0 3 6e 0 2 1 0 1 6e 4 0 6e 3 1 1 0 0 6e 0 0 64 0 0 6e 0 1 1 0 3 64 0 0 6e 2da 2 6e",
   "3x 0 9 2o v 6e fe 0 62 0 0 6c 0 0 6g 0 0 66 0 1 68 2x 1 8 n9w 0 6e 4 9 6e w 1 6e 28 1 6e",
   "7o 0 9 11 0 9 47 0 9 r h 6e 1l 2 64 11 0 9 2n 0 7 c 0 9 6n 0 6e 1 1 6e 0 0 64 2 1 6e 5 1",
   "6e 1 0 6e 1g 0 9 6u 0 9 fn4 0 q ld 6 6e 0 6 64 0 1 6e r1 0 64 6a 0 64 45 4 6e 1aq 0 64 1",
   "0 6e 14 0 6e 0 0 1 0 0 64 4 0 9 4l 0 6e 0 0 64 fx 3 6e 1t 4 6e 8t 1 6e 25 1 64 1 2 64 1y",
   "1 64 0 2 6e 0 0 64 0 0 6e 0 3 64 1d 0 6e 0 0 64 0 0 6e 0 0 64 5c 0 9 15 0 9 e 0 9 1l 0 9",
   "0 0 7 1x 2 6e 1c 1 9 1q 0 7 24 0 9 9 0 7 2y 0 9 0 0 7 4y 0 7 0 0 9 28 1 7 g 0 9 o 6 6e 3",
   "4 6e 2h 2 9 35 0 9 3 0 7 n 0 6e 2r 0 9 0 0 7 6z 0 9 0 0 7 3i 0 9 3a 0 9 0 0 7 37 0 9 7h",
   "0 9 0 0 7 76 1 9 4 0 7 4c 0 9 2b 0 9 i 0 9 29 0 9 bp 0 9 76 0 7 1 1 9 29 0 9 bt 1 9 d0s",
   "0 9 1xc 4 1 1n 6 6e xl 1 6 f58 0 1 43q 1 60 0 2 1 3 0 6a 0 4 60 8 7 64 2 4 6e 0 1 64 u 3",
   "6e 44 2 6e 2pn 6 6e 1 g 6e 2 6 6e 1 1 6e 1 4 6e 2s 0 6e 4g 6 6e af 0 6e 1p 3 6e e4 1 6g",
   "0 0 64 0 0 6e 72 0 6e 0 0 64 6r 0 6e 2 0 6e 7 1 6e 5 0 6e d6 6 64 31 5 6e 0 0 7"]

structure Parts where
  whole : Nat
  first : Nat
  second : Nat

def partsFrom (place : Nat) : List Nat -> List Parts
  | gap :: first :: second :: rest =>
      ⟨place + gap, first, second⟩ :: partsFrom (place + gap) rest
  | _ => []

def partsOfLines (lines : List String) : List Parts :=
  partsFrom 0 (lines.flatMap fun line => numbers line.toList)

def composites : List Parts := partsOfLines compositeLines

def singletons : List Parts := partsOfLines singletonLines

structure ClassRange where
  least : Nat
  greatest : Nat
  combiningClass : Nat

def classesFrom (place : Nat) : List Nat -> List ClassRange
  | gap :: extra :: combiningClass :: rest =>
      ⟨place + gap, place + gap + extra, combiningClass⟩ ::
        classesFrom (place + gap + extra + 1) rest
  | _ => []

def classRanges : List ClassRange :=
  classesFrom 0 (classLines.flatMap fun line => numbers line.toList)

def combiningClass (c : Char) : Nat :=
  ((classRanges.find? fun range => range.least ≤ c.toNat && c.toNat ≤ range.greatest).map
    ClassRange.combiningClass).getD 0

def hangulParts (n : Nat) : List Nat :=
  let place := n - 0xAC00
  let final := place % 28
  [0x1100 + place / 588, 0x1161 + place % 588 / 28] ++
    (if final = 0 then [] else [0x11A7 + final])

def decomposeFor : Nat -> Nat -> List Nat
  | 0, n => [n]
  | depth + 1, n =>
      if 0xAC00 ≤ n ∧ n ≤ 0xD7A3 then hangulParts n
      else
        match (composites.find? (·.whole == n)).or (singletons.find? (·.whole == n)) with
        | none => [n]
        | some parts =>
            decomposeFor depth parts.first ++
              (if parts.second = 0 then [] else decomposeFor depth parts.second)

/-- What a character is made of; no chain of decompositions has more than three
steps. -/
def decomposeChar (c : Char) : Text := (decomposeFor 3 c.toNat).map Char.ofNat

def insertMark (c : Char) : Text -> Text
  | [] => [c]
  | last :: before =>
      if combiningClass c < combiningClass last then last :: insertMark c before
      else c :: last :: before

def insertOrdered (reversed : Text) (c : Char) : Text :=
  if combiningClass c = 0 then c :: reversed else insertMark c reversed

def decompose (text : Text) : Text :=
  ((text.flatMap decomposeChar).foldl insertOrdered []).reverse

def composePair? (a b : Char) : Option Char :=
  let m := a.toNat
  let n := b.toNat
  if 0x1100 ≤ m ∧ m < 0x1113 ∧ 0x1161 ≤ n ∧ n < 0x1176 then
    some (Char.ofNat (0xAC00 + ((m - 0x1100) * 21 + (n - 0x1161)) * 28))
  else if 0xAC00 ≤ m ∧ m ≤ 0xD7A3 ∧ (m - 0xAC00) % 28 = 0 ∧ 0x11A7 < n ∧ n < 0x11C3 then
    some (Char.ofNat (m + (n - 0x11A7)))
  else
    (composites.find? fun parts => parts.first == m && parts.second == n).map
      fun parts => Char.ofNat parts.whole

/-- Composition under way: what is finished, the last starter, and the marks
behind it that did not combine; the finished part and the marks are reversed. -/
structure Composing where
  finished : Text
  starter : Option Char
  marks : Text

def Composing.reversed (state : Composing) : Text :=
  state.marks ++ state.starter.toList ++ state.finished

/-- One more character.  It combines with the starter unless a mark in between
has the same or a greater class. -/
def Composing.add (state : Composing) (c : Char) : Composing :=
  match state.starter with
  | none =>
      if combiningClass c = 0 then { state with starter := some c }
      else { state with finished := c :: state.finished }
  | some starter =>
      let blocked :=
        match state.marks with
        | [] => false
        | last :: _ => combiningClass c ≤ combiningClass last
      match if blocked then none else composePair? starter c with
      | some whole => { state with starter := some whole }
      | none =>
          if combiningClass c = 0 then ⟨state.reversed, some c, []⟩
          else { state with marks := c :: state.marks }

def compose (text : Text) : Text :=
  ((decompose text).foldl Composing.add ⟨[], none, []⟩).reversed.reverse

end FileShare.Unicode
