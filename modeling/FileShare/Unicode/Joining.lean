import FileShare.Unicode.Table

/-!
# Joiners

Where the zero-width joiner and non-joiner may stand in a label: after a virama,
and the non-joiner also between two letters that would join.  The tables follow
version 17 of the standard, with changes of version 18.
-/

set_option autoImplicit false

namespace FileShare.Unicode

def viramaLines : List String :=
  ["1u5 0 3j 0 3j 0 3j 0 3j 0 3j 0 3j 0 3j 0 31 1 g 0 3g 0 33 0 3j 0 5l 0 50 1 1cp 1 u 0 4d",
   "0 i5 0 6b 0 2t 1 1y 1 3gr 0 o7a 0 11 0 47 0 3y 0 30 0 8l 0 6u 0 imp 0 16u 0 15 0 e 0 1l",
   "0 3d 1 3v 0 38 0 50 0 2q 0 3k 2 35 0 3j 0 70 0 3j 0 3a 0 38 0 7h 0 77 1 4h 0 2b 0 i 0 29",
   "0 bp 0 78 1 29 0 bt 1 d0s 0"]

def transparentLines : List String :=
  ["4t 0 gi 33 7n 6 7b 18 1 0 1 1 1 1 1 0 20 a 1 0 1a k g 0 2t 6 2 5 2 1 1 3 x 0 1 0 u q 2j",
   "a 1m 8 9 0 o 3 1 8 1 2 1 4 17 2 1n 8 16 n 1 v 1j 0 1 0 4 7 4 0 3 6 a 1 t 0 1m 0 4 3 8 0",
   "k 1 q 0 2 1 1l 0 4 1 4 1 2 2 3 0 u 1 3 0 b 1 1l 0 4 4 1 1 4 0 k 1 m 5 1 0 1m 0 2 0 1 3 8",
   "0 5 3 b 1 u 0 1p 0 c 0 1e 0 3 0 1j 0 1 2 5 2 1 3 7 1 b 1 t 0 1m 0 2 0 6 0 5 1 k 1 s 1 1l",
   "1 4 3 8 0 k 1 t 0 20 0 7 2 1 0 2i 0 2 6 c 7 2q 0 2 8 b 6 21 1 r 0 1 0 1 0 1j d 1 4 1 1 5",
   "a 1 z 9 0 2u 3 1 5 1 1 2 1 p 1 4 2 g 3 d 0 2 1 6 0 f 0 jj 2 qa 2 t 1 u 1 u 1 1s 1 1 6 8",
   "0 2 a 9 0 19 2 1 0 39 1 y 0 3a 2 4 1 9 0 6 2 63 1 2 0 1m 0 1 6 1 0 1 0 2 7 6 9 2 0 1c 19",
   "2 b k 3 1c 0 1 3 8 0 14 8 c 1 w 3 2 1 1 2 1k 0 1 1 3 0 1 2 1m 7 2 1 48 2 1 c 1 6 4 0 6 0",
   "3 1 5i 1r ej 0 2 1 q 4 1d 4 5 5 2o w 2da 2 3x 0 2o v fe 3 2z 1 n9w 3 1 9 w 1 28 1 7k 0 3",
   "0 4 0 p 1 5 0 47 1 q h d 0 12 7 p a 1a 2 1c 0 2 3 2 1 13 0 1v 5 2 1 2 1 c 0 8 0 1b 0 1f",
   "0 1 2 2 1 5 1 1 0 16 1 8 0 6m 0 2 0 4 0 fn4 0 kh f g f 5r 0 6x 2 e9 0 6a 0 45 4 1ae 2 1",
   "1 5 3 14 2 4 0 4l 1 fx 3 1t 4 8t 1 25 5 1y a 1d 3 3f 0 1i e 15 0 2 1 a 2 1d 3 2 1 7 0 1p",
   "2 10 4 1 7 1q 0 c 1 1g 8 a 3 2 0 2n 2 2 0 1 1 6 0 2 0 4d 0 3 7 l 1 1l 1 3 0 11 6 3 4 1y",
   "5 d 0 1 0 1 0 e 1 2d 7 2 2 1 0 n 0 2c 5 1 0 4 1 1 1 6m 3 6 1 1 1 r 1 2d 7 2 0 1 1 2y 0 1",
   "0 2 5 1 0 2t 0 1 0 2 3 1 4 77 8 1 1 74 1 1 0 4 0 40 3 2 1 4 0 w 9 14 5 2 3 8 0 9 5 2 2",
   "1a c 1 1 5i 0 1 2 1 0 5l 6 1 5 1 0 2a l 2 6 1 1 1 1 3e 5 3 0 1 1 1 6 1 0 20 1 3 0 1 0 9n",
   "1 b 1 1g 4 5 0 1 0 n 0 445 g 6 e 8ug b 3 2 1xc 4 1n 6 t4 0 1r 3 29 0 f5k 1 1 3 3mk 19 2",
   "m f4 2 9 f 2 6 u 3 44 2 1iz 1i 4 1d 8 0 e 0 m 4 1 e 11s 6 1 g 2 6 1 1 1 4 2s 0 4g 6 af 0",
   "1p 3 e4 3 72 1 6r 0 2 0 7 1 5 0 d6 6 31 7 gzat 0 u 2n 3k 6n"]

/-- Letters that join with the one after them only. -/
def joinsLeftLines : List String :=
  ["x9u 0 jfe 0 9 0 fc 0 ju 0"]

def joinsBothLines : List String :=
  ["17k 0 5 0 1 0 1 4 4 c 1 6 1 1 z 1 8 f i 11 1 1 9 0 1 0 1 1 14 2 2 0 i 2 5 3 1 8 1 0 1 0",
   "1 1 v a 3 e 2 3 1 0 2 2 2 5 22 w 2e 4 2 0 1 9 1 0 a 0 1 3 2 0 t 0 2 4 1 0 g 9 5 1 2 5 1",
   "e 30e 0 o 2g e x 1 0 sd1 1d jf2 4 e 3 1 4 1 2 a 3 41 0 1 0 3 2 1 1 1 0 2 0 s 1 9e w 1 0",
   "bj 1 1 1 2w 2 1 g c 2 s 3 2 b 1a 0 1 1 4 0 2 1 1 1 1 0 2 0 5 0 16wl 1v"]

/-- Letters that join with the one before them only. -/
def joinsRightLines : List String :=
  ["17m 3 1 0 1 0 5 3 l 0 14 2 1 2 g h 12 0 2 8 1 0 1 0 2 1 1 0 o 1 w 0 4 4 4 0 9 0 1 0 1 0",
   "2 0 t 0 b 2 f 1 4 0 1 1 3 1 5i 0 5 1 1 0 a 0 1 2 e 0 1 1 5 i b 0 r 2 1 0 2 1 6 0 1eyz 0",
   "1 0 1 1 3 4 a 0 3 0 2 0 a 0 41 0 1 2 3 0 2 0 1 1 1 0 n 3 ad 0 bj 0 34 0 w 0 v 1 1q 2 2 1",
   "2 0 4 1 5 0"]

def markLines : List String :=
  ["lc 33 7n 6 7b 18 1 0 1 1 1 1 1 0 20 a 1c k g 0 2t 6 2 5 2 1 1 3 z 0 u q 2j a 1m 8 9 0 o",
   "3 1 8 1 2 1 4 17 2 1n 8 16 n 1 w 1i 2 1 h 1 6 a 1 t 2 1k 0 1 6 2 1 2 2 9 0 a 1 q 0 2 2",
   "1k 0 1 4 4 1 2 2 3 0 u 1 3 0 b 2 1k 0 1 7 1 2 1 2 k 1 m 5 1 2 1k 0 1 6 2 1 2 2 5 4 a 1 u",
   "0 1n 4 3 2 1 3 9 0 14 4 1j 0 1 6 1 2 1 3 7 1 b 1 t 2 1k 0 1 6 1 2 1 3 7 1 b 1 f 0 c 3 1j",
   "1 1 6 1 2 1 3 9 0 a 1 t 2 1y 0 4 5 1 0 1 7 i 1 1p 0 2 6 c 7 2q 0 2 8 b 6 21 1 r 0 1 0 1",
   "0 4 1 1d j 1 1 5 a 1 z 9 0 2s j n 3 4 2 1 2 2 6 3 3 d b 1 0 a 3 jj 2 qa 3 s 2 t 1 u 1 1s",
   "v 9 0 19 2 1 0 39 1 y 0 3a b 4 b 63 4 1l 9 1 s 2 0 1c 19 2 b k 4 1b g 12 8 c 2 u c 1k d",
   "1c j 48 2 1 k 4 0 6 0 2 2 5i 1r k0 w 2da 2 3x 0 2o v fe 5 2x 1 n9w 3 1 9 w 1 28 1 7k 0 3",
   "0 4 0 n 4 4 0 2b 1 1e h q h d 0 12 7 p c 18 3 1b d 10 0 1v d c 0 8 1 19 2 1e 0 1 2 2 1 5",
   "1 1 0 15 4 5 1 6k 7 1 1 fn4 0 kh f g f r1 0 6a 0 45 4 1ae 2 1 1 5 3 14 2 4 0 4l 1 fx 3",
   "1t 4 8t 1 25 5 1y a 1d 3 3e 2 1h e 15 0 2 1 a 3 19 a 7 0 1p 2 10 d g 1 18 0 c 2 1c d 8 3",
   "1 1 2k b 6 0 2 0 4d b l 3 1j 1 1 6 2 1 2 2 9 0 a 1 2 6 3 4 1v 8 1 0 2 0 1 3 1 4 1 0 e 1",
   "2a h n 0 29 j 6j 6 2 8 r 1 2a g 2y c 2t e 74 e 6t 5 1 1 2 3 1 0 1 1 3x 6 2 6 3 0 s 9 14",
   "6 1 3 8 0 9 a 1a f 5i 7 5j 7 1 7 2a l 1 d 3e 5 3 0 1 1 1 6 1 0 1u 4 1 1 1 4 9n 3 9 1 1 0",
   "1c 6 3 4 n 0 44l 0 6 e 8ug h 1xc 4 1n 6 t4 0 1 1i 7 3 29 0 b 1 f57 1 3mp 19 2 m f2 4 3 5",
   "8 7 2 6 u 3 44 2 1iz 1i 4 1d 8 0 e 0 m 4 1 e 11s 6 1 g 2 6 1 1 1 4 2s 0 4g 6 af 0 1p 3",
   "e4 3 72 1 6r 0 2 0 7 1 5 0 d6 6 31 6 gzhx 6n"]

def viramaSet : RangeSet := .ofLines viramaLines
def transparentSet : RangeSet := .ofLines transparentLines
def joinsLeftSet : RangeSet := .ofLines joinsLeftLines
def joinsBothSet : RangeSet := .ofLines joinsBothLines
def joinsRightSet : RangeSet := .ofLines joinsRightLines
def markSet : RangeSet := .ofLines markLines

def isMark (c : Char) : Bool := markSet.contains c

def joinsNext (p : Char -> Bool) (text : Text) : Bool :=
  match text.dropWhile transparentSet.contains with
  | [] => false
  | c :: _ => p c

/-- Whether every joiner of a label that follows `before`, which is given from
its end to its start, stands where it may. -/
def joinersPlacedAfter (before : Text) : Text -> Bool
  | [] => true
  | c :: rest =>
      let afterVirama :=
        match before with
        | [] => false
        | last :: _ => viramaSet.contains last
      let placed :=
        if c.toNat = 0x200D then afterVirama
        else if c.toNat = 0x200C then
          afterVirama ||
            (joinsNext (fun d => joinsLeftSet.contains d || joinsBothSet.contains d) before &&
              joinsNext (fun d => joinsRightSet.contains d || joinsBothSet.contains d) rest)
        else true
      placed && joinersPlacedAfter (c :: before) rest

def joinersPlaced (label : Text) : Bool := joinersPlacedAfter [] label

end FileShare.Unicode
