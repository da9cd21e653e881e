import FileShare.Unicode.Table

/-!
# Writing direction

The classes of characters by writing direction, and the rule that a label of a
name keeps when the name has a character that is written from right to left.
The tables follow version 17 of the standard, with changes of version 18.
-/

set_option autoImplicit false

namespace FileShare.Unicode

def rightLines : List String :=
  ["13k 0 19 0 1 0 2 0 2 0 1 1j 8 0 2 0 1 0 d 1b y 2 1 2s f 1 7 1 a m 1 t r 2i b 1l 9 1 4 2",
   "1 n 4 0 9 0 3 0 5 16 3 1f 2 4 9 15 4lh 0 179p 0 1 9 1 48 g a2 i 1r 2 1h 14 c 37 3y 1s1",
   "7y 1 68 3 0 2 4 4 13 3 3 1 4k 2 29 7 df 4 7 a 5 a u 6 6o v 17 2 y 9 w 6 1x b 1c 4 3d",
   "16o0 5r 7 30 7 144 2 7h"]

def arabicNumberLines : List String :=
  ["16o 5 2i 9 1 1 34 0 c2 1 28 0 1ff1 9 6 9 7q u"]

def leftLines : List String :=
  ["1t p 6 p 1b 0 a 0 4 0 5 m 1 u 1 cg 2 6 e 1 e 4 9 0 3l 3 2 7 1 4 2 0 1 31 1 3v 7 73 1 1",
   "om 1i 1 0 1 3 8 3 1 2 7 9 2 s 1 1l 1 3 4 7 1 j 2 d 2 6 1 1 1 1 2 1k 1 3 2 3 2 1 3 2 1 t",
   "2 2 1 a 2 1k 1 3 5 0 2 3 1 j 2 c 1 7 6 0 1 1l 1 1 1 0 4 7 1 4 4 a 2 t 1 1o 1 b 1 10 8 4",
   "1 2 1 1i 1 0 3 4 3 0 4 6 2 a 2 j 7 1 1 1l 1 e 2 j 2 r 2 1k 2 3 4 7 1 j 2 s 1 1z 1 6 3 0",
   "1 2h 1 1 7 3 1 6 8 2p 1 1 9 a 7 20 2 q 1 0 1 0 5 1e e 0 5 0 2 4 b 0 10 8 1 2t 4 0 6 0 2",
   "1 2 o 2 3 3 f 4 c 1 1 2 5 1 e 1 ji 3 1b a 2t 1 hq 1 p 2 38 3 s 2 t 2 t 2 1r 2 0 7 7 1 1",
   "b 6 1 0 1 h a 5 g 38 2 x 1 39 3 3 2 8 1 5 3 3 1 2 2 47 y m 2 1 1 1l 1 0 7 0 1 0 1 1 8 5",
   "a 1 1 1b 1a 1 c j 4 1b 1 0 4 7 1 13 9 b 2 v 4 1 2 0 3 1j 1 0 2 2 1 0 3 1l 8 1 2 47 3 0 d",
   "0 7 3 1 5 1 2 2 5h 1s cc 1 0 3 a 3 c 3 c 3 c 2 0 e 0 2q 2 b 0 g f 29 e 2 0 4 0 2 9 1 0 3",
   "4 6 0 1 0 1 0 1 3 1 a 2 3 5 4 4 1 g 14 3 3 bq 1w q 0 44 l b k 1o 25 ci 0 9f 73 hg 1 3u",
   "6c 6 3 3 6 7 3i 1 2n 3l u q 0 2h b 5y p l 2 p 8 4 1 1 4 2 4 3 2g 4 2 1 2h 1 5f 12 8 1 18",
   "2 1c g r 3 1d f b 4 4m 4 2q 2 u 1 533 1s h3j 1j 91 3 2m h t 2 27 2 d y 2t 1 3c 1 2 1 3 1",
   "o 2 0 5 a 2 1l 4 23 2 p i c 1 11 8 o b 19 3 1b 1 1 4 1 2 12 1 1u 6 1 2 1 2 b 1 7 1 1a 1",
   "1e 1 0 3 1 2 4 2 0 1 15 2 7 1 36 2 3c 1 1 1 3 1 8pd 1kw 5cs l9 5 1f 0 j 0 4 3 40 0 w p 6",
   "p b 3d 7 0 7 0 g 74 1 1p 25 2 d 2 1 2j 1 69 s 3d 5 w4 1kw 0 1 1h f a k 9 1 1 2 9 3 1c 4",
   "1 2 6 1 1o 3 z 5 0 8 1p 1 b 2 1f 9 9 4 1 1 2m 3 1 1 0 2 5 1 1 1 4c 1 2 8 k 2 1k 2 2 1 10",
   "7 2 5 1x 6 c 1 0 1 0 1 d 2 2c 8 1 3 0 1 m 1 2b 6 0 1 3 2 0 2 6l 4 5 2 0 2 q 2 2c 8 1 1 0",
   "2 u d 1p 1 0 1 1 6 0 1 2s 1 0 1 1 4 0 5 76 9 0 2 73 2 0 1 3 1 3z 4 1 2 3 1 v 6 1 2 13 6",
   "1 4 7 1 8 6 1 3 19 d 0 2 5h 1 0 3 0 1 5k 7 0 6 2b m 1 7 0 2 0 2 3d 6 2 1 0 2 0 7 0 1 1z",
   "2 2 1 0 1 9m 2 a 2 1f 5 4 1 0 1 m 1 3d t 40d 1 5 f 8uf c 2 3 1xb 5 1m 7 t3 1 1q 4 26 1 0",
   "1 f5j 2 0 4 317 5y p d 2 c4 5 n e 26 1 n f3 3 8 g 1 7 t 4 1m 2 k 1y 55 2f o9 1 o 1 u 1 o",
   "1 u 1 o 1 u 1 o 1 u 1 o 1 9 1e e7 1j 3 1e 7 1 d 1 l 5 0 f 11r 7 0 h 1 7 0 2 0 5 2r 1 4f",
   "7 ae 1 1o 4 e 1 dn 4 71 2 6q 1 1 1 6 2 4 1 7d 1m4 3 2s b f 1 f 0 f 0 11 9 g u 1 1l 6 1o",
   "1 4x 6 49 re 1 h 2 d 2 62 5 c 3 1 e c 3 1k 7 a 5 14 7 u 1 c 3 2 d 9 12 9k 7 e 1 d 2 d 0",
   "1l 0 2 0 j 0 d 2 c 4 43 0 2v si 2 1ekd 2 1ekd 2 1ekd 2 1ekd 2 1ekd 2 1ekd 2 1ekd 2 1ekd",
   "2 1ekd 2 1ekd 2 1ekd 2 1ekd 35u 1bel 2 1ekd 2 1ekd"]

def europeanNumberLines : List String :=
  ["1c 9 3c 1 5 0 186 9 512 0 3 5 6 9 se j 175g 9 qv q 13w4 9 250 1d 4xs a 25h 9"]

def nonspacingLines : List String :=
  ["lc 33 7n 6 7b 18 1 0 1 1 1 1 1 0 20 a 1c k g 0 2t 6 2 5 2 1 1 3 z 0 u q 2j a 1m 8 9 0 o",
   "3 1 8 1 2 1 4 17 2 1n 8 16 n 1 v 1j 0 1 0 4 7 4 0 3 6 a 1 t 0 1m 0 4 3 8 0 k 1 q 0 2 1",
   "1l 0 4 1 4 1 2 2 3 0 u 1 3 0 b 1 1l 0 4 4 1 1 4 0 k 1 m 5 1 0 1m 0 2 0 1 3 8 0 5 3 b 1 u",
   "0 1p 0 c 0 1e 0 3 0 1j 0 1 2 5 2 1 3 7 1 b 1 t 0 1m 0 f 1 k 1 s 1 1l 1 4 3 8 0 k 1 t 0",
   "20 0 7 2 1 0 2i 0 2 6 c 7 2q 0 2 8 b 6 21 1 r 0 1 0 1 0 1j d 1 4 1 1 5 a 1 z 9 0 2u 3 1",
   "5 1 1 2 1 p 1 4 2 g 3 d 0 2 1 6 0 f 0 jj 2 qa 2 t 1 u 1 u 1 1s 1 1 6 8 0 2 a 9 0 19 2 1",
   "0 39 1 y 0 3a 2 4 1 9 0 6 2 63 1 2 0 1m 0 1 6 1 0 1 0 2 7 6 9 2 0 1c 19 2 b k 3 1c 0 1 3",
   "8 0 14 8 c 1 w 3 2 1 1 2 1k 0 1 1 3 0 1 2 1m 7 2 1 48 2 1 c 1 6 4 0 6 0 3 1 5i 1r k0 w",
   "2da 2 3x 0 2o v fe 3 2z 1 n9w 3 1 9 w 1 28 1 7k 0 3 0 4 0 p 1 5 0 47 1 q h d 0 12 7 p a",
   "1a 2 1c 0 2 3 2 1 13 0 1v 5 2 1 2 1 c 0 8 0 1b 0 1f 0 1 2 2 1 5 1 1 0 16 1 8 0 6m 0 2 0",
   "4 0 fn4 0 kh f g f r1 0 6a 0 45 4 1ae 2 1 1 5 3 14 2 4 0 4l 1 fx 3 1t 4 8t 1 25 5 1y a",
   "1d 3 3f 0 1i e 15 0 2 1 a 2 1d 3 2 1 7 0 1p 2 10 4 1 7 1q 0 c 1 1g 8 a 3 2 0 2n 2 2 0 1",
   "1 6 0 2 0 4d 0 3 7 l 1 1l 1 3 0 11 6 3 4 1y 5 d 0 1 0 1 0 e 1 2d 7 2 2 1 0 n 0 2c 5 1 0",
   "4 1 1 1 6m 3 6 1 1 1 r 1 2d 7 2 0 1 1 2y 0 1 0 2 5 1 0 2t 0 1 0 2 3 1 4 77 8 1 1 74 1 1",
   "0 4 0 40 3 2 1 4 0 w 5 2 1 14 5 2 3 8 0 9 5 2 2 1a c 1 1 5i 0 1 2 1 0 5l 6 1 5 2c l 2 6",
   "1 1 1 1 3e 5 3 0 1 1 1 6 1 0 20 1 3 0 1 0 9n 1 b 1 1g 4 5 0 1 0 n 0 44l 0 6 e 8ug b 3 2",
   "1xc 4 1n 6 t4 0 1r 3 29 0 f5k 1 3mp 19 2 m f4 2 h 7 2 6 u 3 44 2 1iz 1i 4 1d 8 0 e 0 m 4",
   "1 e 11s 6 1 g 2 6 1 1 1 4 2s 0 4g 6 af 0 1p 3 e4 3 72 1 6r 0 2 0 7 1 5 0 d6 6 31 6 gzhx",
   "6n"]

/-- Separators, terminators, boundary neutrals and other neutrals. -/
def neutralLines : List String :=
  ["0 8 5 d 5 e a 6 q 5 q 9 1 z 1 6 2 0 1 2 2 4 n 0 v 0 ch 1 7 d 2 d 5 8 1 g 38 1 8 0 5 1 1",
   "0 32 0 b7 0 2 2 3a 1 1 1 1 0 1 1 2i 0 37 0 a 0 7g 3 e0 1 7 0 6t 0 75 7 3h 6 cg 0 6y 3 uq",
   "9 2u 0 ii 1 8u 0 k 9 6 a 3 0 8h 0 3 1 48 x 14t 0 1 2 b 2 d 2 d 2 d 1 c 2 2 n 7 1b 1 5 4",
   "5 a 4 b 5 g 1b 1c 1 1 3 1 1 a 0 1 2 5 5 1 0 1 0 1 0 4 0 b 1 4 4 5 3 2 f 15 2 4 bp 1x p 1",
   "43 m a l 13 2q ch 1 9e 74 hf 2 3t 6d 5 e 6 74 2o v p 1 2g c 5x q f 1 3 3 o f 0 5 1 5 2",
   "2j 1 3 0 2i 0 5g 11 9 0 19 1 1d f s 2 1e e c 3 4n 3 2r 1 v 0 534 1r h3k 1i 92 2 2r 0 a 1",
   "3k x 2u 0 4f 3 c 1 1m 3 ky 1 fr1 0 49 f a3 h 1s 1 1i 13 d 2 g 9 m y 1 i 1 3 43 0 1 e a 6",
   "q 5 q a 3e 6 1 6 1 f 75 0 1q 24 3 c 3 0 1ha 0 ex 6 fi 0 9t 8 ah j 16i c 1uw s fsg 0 f5p",
   "3 318 5x 10 2 3 c3 6 m f v hf 7 32 1 l 1t 3 0 56 2e oa 0 p 0 v 0 p 0 v 0 p 0 v 0 p 0 v 0",
   "p 0 27v 0 2cw 1 7i 17 4 2r c e 2 e 1 e 1 10 l 4 v 0 1m 5 1p 0 4y 5 4a rd 2 g 3 c 3 61 6",
   "b 4 0 f b 4 1j 8 9 6 13 8 t 2 b 4 1 e 8 13 9j 8 d 2 c 3 c 1 1k 1 1 1 i 1 c 3 b 5 42 1 2j",
   "a 0 sj 1 1eke 1 1eke 1 1eke 1 1eke 1 1eke 1 1eke 1 1eke 1 1eke 1 1eke 1 1eke 1 1eke 1",
   "1eke 75 6o 2rz 1bem 1 1eke 1 1eke 1"]

inductive Direction where
  | left
  | right
  | europeanNumber
  | arabicNumber
  | nonspacing
  | neutral
  | other
deriving DecidableEq, Repr

def rightSet : RangeSet := .ofLines rightLines
def arabicNumberSet : RangeSet := .ofLines arabicNumberLines
def leftSet : RangeSet := .ofLines leftLines
def europeanNumberSet : RangeSet := .ofLines europeanNumberLines
def nonspacingSet : RangeSet := .ofLines nonspacingLines
def neutralSet : RangeSet := .ofLines neutralLines

def direction (c : Char) : Direction :=
  if leftSet.contains c then .left
  else if rightSet.contains c then .right
  else if europeanNumberSet.contains c then .europeanNumber
  else if arabicNumberSet.contains c then .arabicNumber
  else if nonspacingSet.contains c then .nonspacing
  else if neutralSet.contains c then .neutral
  else .other

def hasRightToLeft (text : Text) : Bool :=
  text.any fun c => direction c == .right || direction c == .arabicNumber

def lastDirection (label : Text) : Direction :=
  match ((label.map direction).reverse.dropWhile (· == .nonspacing)) with
  | [] => .other
  | last :: _ => last

/-- Whether the label keeps the rule: it begins with a letter, has only characters
that may stand with it, and ends with a letter or a digit; in a label written
from right to left the digits are of one kind. -/
def keepsDirection (label : Text) : Bool :=
  let classes := label.map direction
  let last := lastDirection label
  match classes with
  | [] => true
  | .right :: _ =>
      classes.all (fun d => d != .left && d != .other) &&
        (last == .right || last == .europeanNumber || last == .arabicNumber) &&
        !(classes.contains .europeanNumber && classes.contains .arabicNumber)
  | .left :: _ =>
      classes.all (fun d => d != .right && d != .arabicNumber && d != .other) &&
        (last == .left || last == .europeanNumber)
  | _ => false

end FileShare.Unicode
