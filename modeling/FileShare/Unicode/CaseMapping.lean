import FileShare.Unicode.Table

/-!
# Small letters

The full lower-case mapping.  Every character but two has one image: capital I
with a dot becomes small i with the dot as a mark of its own, and capital sigma
becomes final sigma at the end of a word.  The tables follow version 17 of the
standard.
-/

set_option autoImplicit false

namespace FileShare.Unicode

def lowerLines : List String :=
  ["5c n 1 1s o 7 1 1s 14 o 2 2 1e 3 2 2 7 8 2 2 h n 2 2 1a 1 1 6p 1 3 2 2 8 1 1 bo 1 2 2 2",
   "4 1 1 bg 1 1 1 2 2 2 1 be 2 1 1 2 3 1 1 4e 1 1 1 b8 1 1 1 ba 1 1 1 2 2 1 1 be 1 1 1 bi 2",
   "1 1 bq 1 1 1 bm 1 1 1 2 4 1 1 bq 1 1 1 bu 2 1 1 bw 1 3 2 2 6 1 1 c4 1 1 1 2 2 1 1 c4 3 1",
   "1 2 2 1 1 c4 1 1 1 2 2 2 1 c2 2 2 2 2 4 1 1 c6 1 1 1 2 4 1 1 2 8 1 1 4 1 1 1 2 2 1 1 4 1",
   "1 1 2 2 1 1 4 1 9 2 2 j 9 2 2 j 1 1 4 1 2 2 2 4 1 1 5d 1 1 1 33 1 k 2 2 14 1 1 77 2 9 2",
   "2 o 1 1 gnq 1 1 1 2 2 1 1 91 1 1 1 gnk 3 1 1 2 2 1 1 at 1 1 1 3u 1 1 1 3y 1 5 2 2 8a 2 2",
   "2 6 1 1 2 9 1 1 6g 7 1 1 24 2 3 1 22 4 1 1 3k 2 2 1 3i 3 h 1 1s i 9 1 1s 18 1 1 g 9 c 2",
   "2 s 1 1 3b 3 1 1 2 2 1 1 d 1 1 1 2 3 3 1 77 3 g 1 4g g w 1 1s 28 h 2 2 16 r 2 2 1i 1 1 u",
   "1 7 2 2 f 1c 2 2 2p 12 1 2o 29b 12 1 b7k 13 1 1 b7k 6 1 1 b7k k3 28 1 1nz4 28 6 1 g 1p5",
   "1 1 2 7 17 1 4n3 19 3 1 4n3 8z 23 2 2 4e 1 1 br1 2 1c 2 2 2w 8 1 f g 6 1 f g 8 1 f g 8 1",
   "f g 6 1 f h 4 2 f f 8 1 f w 8 1 f g 8 1 f g 8 1 f g 2 1 f 2 2 1 43 2 1 1 h c 4 1 4r 4 1",
   "1 h c 2 1 f 2 2 1 5j e 2 1 f 2 2 1 67 2 1 1 d c 2 1 73 2 2 1 6z 2 1 1 h 8a 1 1 bll 4 1 1",
   "cxp 1 1 1 cqz 7 1 1 1k 1a g 1 w z 1 1 2 mr q 1 1g 1fu 1c 1 2o 2o 1 1 2 2 1 1 gkt 1 1 1",
   "5vv 1 1 1 gjx 3 3 2 2 6 1 1 gmv 1 1 1 gl5 1 1 1 gn1 1 1 1 gmz 2 1 1 2 3 1 1 2 9 2 1 got",
   "2 1e 2 2 2z 2 2 2 7 1 1 2 nym n 2 2 1s e 2 2 4i 7 2 2 g v 2 2 1z 2 2 2 4 1 1 1iiv 1 5 2",
   "2 d 1 1 2 2 1 1 1t8v 3 2 2 2 6 a 2 2 k 1 1 1taf 1 1 1 1tb1 1 1 1 1tat 1 1 1 1ta9 1 1 1",
   "1taf 2 1 1 1t7n 1 1 1 1t8z 1 1 1 1t7t 1 1 1 1fk 1 8 2 2 g 1 1 2n 1 1 1 1tad 1 1 1 1ilr 1",
   "2 2 2 4 1 1 1tcd 1 8 2 2 g 1 1 1toh p 1 1 2 h7w q 1 1s yn 14 1 28 4w 10 1 28 5c b 1 26 c",
   "f 1 26 g 7 1 26 8 2 1 26 1d8 1f 1 3k 5s m 1 1s 28g w 1 1s gww w 1 1s 2o p 1 1i o68 y 1",
   "1w"]

def casedLines : List String :=
  ["1t p 6 p 1b 0 a 0 4 0 5 m 1 u 1 5e 1 3 4 5r 2 y 7 1 u 4 2o 0 16 3 2 1 2 3 1 0 6 0 1 2 1",
   "0 1 j 1 2a 1 3u 8 4l 1 11 9 14 26v 11 1 0 5 0 2 16 1 3 io 2d 2 5 1oi a 5 16 2 2 1s 5b 1s",
   "7p 2 5 2 11 2 5 2 7 1 0 1 0 1 0 1 u 2 1g 1 6 1 0 3 2 1 6 3 3 2 5 4 c 5 2 1 6 38 0 d 0 g",
   "c 2t 0 4 0 2 9 1 0 3 4 6 0 1 0 1 0 1 3 1 5 4 0 2 3 5 4 4 0 h v 3 1 mp 1f 1ee 6c 6 3 3 1",
   "c 11 1 0 5 0 nwy 19 i t 3o 2t 3 3 1 24 k 5 1 2 mt 16 1 d 6 27 fnk 6 c 4 sp p 6 p x1 27",
   "2o z 4 z 38 a 1 e 1 6 1 1 1 a 1 e 1 6 1 1 cj 0 2 2 1 15 1 8 xx 1e d 1e 2l l a l 26y 1r",
   "gv4 1r w o 2 o jzg 2c 1 1y 1 1 2 0 2 1 2 3 1 b 1 0 1 6 1 1s 1 3 2 7 1 6 1 r 1 3 1 4 1 0",
   "3 6 1 9f 2 o 1 o 1 u 1 o 1 u 1 o 1 u 1 o 1 u 1 o 1 7 1f8 9 1 j 6 5 79 1p 1oy 1v 1kc p 6",
   "p 6 p"]

def caseIgnorableLines : List String :=
  ["13 0 6 0 b 0 z 0 1 0 1z 0 4 0 1 0 4 0 2 1 dz 5b 4 1 4 0 9 1 1 0 6z 6 5r 0 5 0 1d 18 1 0",
   "1 1 1 1 1 0 18 0 b 5 a a 1 0 z 0 a k g 0 2t 7 1 9 1 3 x 0 1 0 u q 2j a 1m a 4 0 2 0 o n",
   "17 2 18 0 7 1 5 8 15 1l 1j 0 1 0 4 7 4 0 3 6 a 1 d 0 f 0 1m 0 4 3 8 0 k 1 q 0 2 1 1l 0 4",
   "1 4 1 2 2 3 0 u 1 3 0 b 1 1l 0 4 4 1 1 4 0 k 1 m 5 1 0 1m 0 2 0 1 3 8 0 7 1 b 1 u 0 1p 0",
   "c 0 1e 0 3 0 1j 0 1 2 5 2 1 3 7 1 b 1 t 0 1m 0 2 0 6 0 5 1 k 1 s 1 1l 1 4 3 8 0 k 1 t 0",
   "20 0 7 2 1 0 2i 0 2 6 b 8 2q 0 2 8 9 0 1 6 21 1 r 0 1 0 1 0 1j d 1 4 1 1 5 a 1 z 9 0 2u",
   "3 1 5 1 1 2 1 p 1 4 2 g 3 d 0 2 1 6 0 f 0 2m 0 gw 2 qa 2 t 1 u 1 u 1 1s 1 1 6 8 0 2 a 3",
   "0 5 0 19 4 1f 0 1t 1 y 0 3a 2 4 1 9 0 6 2 63 1 2 0 1m 0 1 6 1 0 1 0 2 7 6 9 2 0 13 0 8",
   "19 2 b k 3 1c 0 1 4 1 0 5 0 14 8 c 1 w 3 2 1 1 2 1k 0 1 1 3 0 1 2 1m 7 2 1 1s 5 2a 2 1 c",
   "1 6 4 0 6 0 3 1 1e 1q d 0 y 2s cd 0 1 2 b 2 d 2 d 2 d 1 c 4 8 1 a 0 2 0 2 4 1d 4 1 9 1 0",
   "d 0 g c 1f w 2a3 1 35 2 3h 0 f 0 2o v 1b 0 d1 0 10 3 3 4 5 0 2l 5 2l 2 lxy 0 yq 5 7i 0",
   "2q 3 1 9 1 0 s 3 28 1 e x 26 0 n 2 2u 3 3 1 8 0 3 0 4 0 p 1 5 0 47 1 q h d 0 12 7 p a 1a",
   "2 1c 0 2 3 2 1 h 0 l 1 1u 5 2 1 2 1 c 0 8 0 z 0 b 0 1f 0 1 2 2 1 5 1 1 0 r 0 e 1 5 1 1 0",
   "2s 4 9 2 3d 0 2 0 4 0 fn4 0 43 g fx f 3 0 c f y 0 2 0 4p 0 7 0 6 0 b 0 z 0 1 0 1b 0 19 1",
   "1v 0 l 2 e9 0 6a 0 45 4 sl 5 1 15 1 8 g6 2 1 1 5 3 14 2 4 0 4l 1 fx 3 12 0 q 4 1 0 8r 1",
   "o 0 1g 5 1y a 1d 3 3f 0 1i e 15 0 2 1 a 2 1d 3 2 1 2 0 4 0 a 0 1e 2 10 4 1 7 1q 0 c 1 1g",
   "8 a 3 2 0 2n 2 2 0 1 1 6 0 2 0 4d 0 3 7 l 1 1l 1 3 0 11 6 3 4 1y 5 d 0 1 0 1 0 e 1 2d 7",
   "2 2 1 0 n 0 2c 5 1 0 4 1 1 1 6m 3 6 1 1 1 r 1 2d 7 2 0 1 1 2y 0 1 0 2 5 1 0 2t 0 1 0 2 3",
   "1 4 77 8 1 1 74 1 1 0 4 0 40 3 2 1 4 0 w 9 14 5 2 3 8 0 9 5 2 2 1a c 1 1 5i 0 1 2 1 0 5l",
   "6 1 5 1 0 2a l 2 6 1 1 1 1 3e 5 3 0 1 1 1 6 1 0 20 1 3 0 1 0 1t 0 7t 1 b 1 1g 4 5 0 1 0",
   "n 0 445 g 6 e 8ug b 3 2 1xc 4 1n 6 9 3 e4 2 14 1 de 0 1r g 1s 1 1 1 d 1 cn0 3 1 6 1 1",
   "2hq 1 1 3 3mk 19 2 m f4 2 9 f 2 6 u 3 44 2 1iz 1i 4 1d 8 0 e 0 m 4 1 e 11s 6 1 g 2 6 1 1",
   "1 4 5 1p x 0 4g d a8 0 1p 3 e3 4 72 1 6r 0 2 0 7 1 5 0 9 0 cw 6 31 7 23z 4 gx6p 0 u 2n",
   "3k 6n"]

def lowerRuns : List Run := runsOfLines lowerLines

def cased : RangeSet := .ofLines casedLines

def caseIgnorable : RangeSet := .ofLines caseIgnorableLines

def lowerChar (c : Char) : Char :=
  if c.toNat < 128 then Text.asciiLowerChar c else (image? lowerRuns c).getD c

/-- Whether a cased character comes first once the case-ignorable ones are
skipped. -/
def beginsCased (text : Text) : Bool :=
  match text.dropWhile caseIgnorable.contains with
  | [] => false
  | c :: _ => cased.contains c

/-- The small letters of a text that follows `before`, which is given from its
end to its start.  Sigma is final after a cased character and before none. -/
def lowerAfter (before : Text) : Text -> Text
  | [] => []
  | c :: rest =>
      let image :=
        if c = 'Σ' then
          [if beginsCased before && !beginsCased rest then 'ς' else 'σ']
        else if c = 'İ' then ['i', '\u0307']
        else [lowerChar c]
      image ++ lowerAfter (c :: before) rest

def lower (text : Text) : Text := lowerAfter [] text

end FileShare.Unicode
