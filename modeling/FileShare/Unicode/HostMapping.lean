import FileShare.Unicode.Table

/-!
# Mapping of host names

What becomes of each character of an international host name before it is
compared or written: it stays, it disappears, it becomes one or several other
characters, or the name is refused.  The tables follow version 17 of the standard
and also take characters that version 18 adds.
-/

set_option autoImplicit false

namespace FileShare.Unicode

def keptLines : List String :=
  ["0 1s q 10 x 6 1 0 1 1 1 0 1 1 4 1 3 0 3 0 n 0 7 w 1 0 1 0 1 0 1 0 1 0 1 0 1 0 1 0 1 0 1",
   "0 1 0 1 0 1 0 1 0 1 0 1 0 1 0 1 0 1 0 1 0 1 0 1 0 1 0 1 0 1 0 3 0 1 1 1 0 1 0 1 0 3 0 1",
   "0 1 0 1 0 2 0 1 0 1 0 1 0 1 0 1 0 1 0 1 0 1 0 1 0 1 0 1 0 1 0 1 0 1 0 1 0 1 0 1 0 1 0 1",
   "0 1 0 1 0 1 0 2 0 1 0 1 0 1 0 2 0 1 0 2 0 3 1 4 0 2 0 3 2 2 0 2 0 1 0 1 0 2 0 1 1 1 0 2",
   "0 3 0 1 0 2 2 1 6 a 0 1 0 1 0 1 0 1 0 1 0 1 0 1 1 1 0 1 0 1 0 1 0 1 0 1 0 1 0 1 0 1 1 4",
   "0 3 0 1 0 1 0 1 0 1 0 1 0 1 0 1 0 1 0 1 0 1 0 1 0 1 0 1 0 1 0 1 0 1 0 1 0 1 0 1 0 1 0 1",
   "0 1 0 1 0 1 0 1 0 1 0 1 0 1 0 1 6 2 0 2 1 1 0 4 0 1 0 1 0 1 0 1 2o 9 u 6 1 5 2i 2 0 3 8",
   "1 v 1 0 1 0 1 0 1 0 3 2 i 0 r y 8 0 1 0 1 0 1 0 1 0 1 0 1 0 1 0 1 0 1 0 1 0 1 0 1 0 3 0",
   "2 0 1 0 2 1 1f 1b 1 0 1 0 1 0 1 0 1 0 1 0 1 0 1 0 1 0 1 0 1 0 1 0 1 0 1 0 1 0 1 0 1 8 1",
   "0 1 0 1 0 1 0 1 0 1 0 1 0 1 0 1 0 1 0 1 0 1 0 1 0 1 0 1 0 1 0 1 0 1 0 1 0 1 0 1 0 1 0 1",
   "0 1 0 1 0 1 0 1 0 2 0 1 0 1 0 1 0 1 0 1 0 1 1 1 0 1 0 1 0 1 0 1 0 1 0 1 0 1 0 1 0 1 0 1",
   "0 1 0 1 0 1 0 1 0 1 0 1 0 1 0 1 0 1 0 1 0 1 0 1 0 1 0 1 0 1 0 1 0 1 0 1 0 1 0 1 0 1 0 1",
   "0 1 0 1 0 1 0 1 0 1 0 1 0 1 0 1 0 1 0 1 0 1 0 1 0 1 0 1 0 1 0 15 19 1 2 2 2 1 1i 8 q 4 5",
   "h l 1 2f 4 2r 1 1b 2 1m 2 2s e 1m 2 1c 2 e 1 r 2 0 1 a 5 v 7 22 1 38 8 z 1 7 2 1 2 l 1 6",
   "1 0 3 3 2 8 2 1 2 3 8 0 8 3 2 o 2 2 1 5 4 1 2 l 1 6 1 0 2 0 2 1 2 0 1 4 4 1 2 2 3 0 a 0",
   "9 g a 2 1 8 1 2 1 l 1 6 1 1 1 4 2 9 1 2 1 2 2 0 f 3 2 b 7 6 1 2 1 7 2 1 2 l 1 6 1 1 1 4",
   "2 8 2 1 2 2 5 4 7 4 2 h a 1 1 5 3 2 1 3 3 1 1 0 1 1 3 1 3 2 3 b 4 4 3 2 1 3 2 0 6 0 e k",
   "5 c 1 2 1 m 1 f 2 8 1 2 1 3 7 1 1 2 1 1 2 3 2 9 7 l 1 2 1 m 1 9 1 4 2 8 1 2 1 3 7 1 5 2",
   "1 3 2 9 1 2 c c 1 2 1 1e 1 2 1 5 4 f 2 p 1 2 1 h 3 n 1 8 1 0 2 6 3 0 4 5 1 0 1 7 6 9 2 2",
   "c 1d 1 6 4 s 11 1 1 0 1 4 1 n 1 0 1 b 1 9 2 4 1 0 1 6 1 9 4 1 w b 1 1h 1 3 1 3 1 3 1 3 1",
   "3 1 b 1 2 4 1 1 0 5 6 1 g 1 3 1 3 1 3 1 3 1 3 1 b 1 2 1 e 1 c 11 4f 1c 17 1 2p 2 6f 1 3",
   "2 6 1 0 1 3 2 14 1 3 2 w 1 3 2 6 1 0 1 3 2 e 1 1k 1 3 2 1u 2 v 3 p 6 2d a hr 1 r 3 2g 7",
   "l 9 n 9 j c c 1 2 1 1 c 1f 2 13 2 9 6 9 6 a 5 9 6 2g 7 16 5 1x a u 1 b 4 b 4 0 3 15 2 4",
   "b 17 4 p 6 a 3 1p 2 1s 1 s 2 a 6 9 6 d 2 19 2 b k 24 1 4l 8 1n 3 e 3 1e a 0 1h 7 8 16 5",
   "17 3 0 b 0 i 0 s c 1 x 11 1r 1 0 1 0 1 0 1 0 1 0 1 0 1 0 1 0 1 0 1 0 1 0 1 0 1 0 1 0 1 0",
   "1 0 1 0 1 0 1 0 1 0 1 0 1 0 1 0 1 0 1 0 1 0 1 0 1 0 1 0 1 0 1 0 1 0 1 0 1 0 1 0 1 0 1 0",
   "1 0 1 0 1 0 1 0 1 0 1 0 1 0 1 0 1 0 1 0 1 0 1 0 1 0 1 0 1 0 1 0 1 0 1 0 1 0 1 0 1 0 1 0",
   "1 0 1 0 1 0 1 0 1 0 1 0 1 0 1 0 1 0 1 0 1 0 1 0 1 0 1 0 1 0 1 4 2 1 1 0 1 0 1 0 1 0 1 0",
   "1 0 1 0 1 0 1 0 1 0 1 0 1 0 1 0 1 0 1 0 1 0 1 0 1 0 1 0 1 0 1 0 1 0 1 0 1 0 1 0 1 0 1 0",
   "1 0 1 0 1 0 1 0 1 0 1 0 1 0 1 0 1 0 1 0 1 0 1 0 1 0 1 0 1 0 1 0 1 0 1 0 1 0 1 0 1 0 1 8",
   "8 5 a 7 8 7 8 5 a 7 8 7 8 0 1 0 1 0 1 0 1 0 1 0 1 0 1f 1 4 0 f 0 9 2 3 1 8 2 1 3 e 0 l 1",
   "2 0 1 4 1 b 3 0 8 2 2 0 2 3 1 0 1 7 3 c 1 6 1c 0 g 7 1 p d w j 0 3 0 b 0 2 1 5 1 3 0 1 0",
   "1 0 1 0 4 0 b 0 6 3 5 5 1c 2 1 4 1 1 4 4b 2 0 2 6v 2 72 m a 4g 10g 1 2u 3 2s 1 46 2 3t",
   "1c 1b 1 0 3 1 1 0 1 0 1 0 4 0 1 1 1 5 5 0 1 0 1 0 1 0 1 0 1 0 1 0 1 0 1 0 1 0 1 0 1 0 1",
   "0 1 0 1 0 1 0 1 0 1 0 1 0 1 0 1 0 1 0 1 0 1 0 1 0 1 0 1 0 1 0 1 0 1 0 1 0 1 0 1 0 1 0 1",
   "0 1 0 1 0 1 0 1 0 1 0 1 0 1 0 1 0 1 0 1 0 1 0 1 0 1 0 1 0 1 7 1 0 1 3 1 0 5 18 1 0 5 0 2",
   "1j 8 0 e n 9 6 1 6 1 6 1 6 1 6 1 6 1 6 1 6 1 3k v p 1 3 1 2a 7i 0 1 1e 1 0 3 4 1 2d 2 1",
   "2 1 1 2m 6 16 2o 1 e 1x a f 20 7 1b 0 ao m8c 3 1i 9 9n l 0 1 0 1 0 1 0 1 0 1 0 1 0 1 0 1",
   "0 1 0 1 0 1 0 1 0 1 0 1 0 1 0 1 0 1 0 1 0 1 0 1 0 1 0 1 i 1 0 1 0 1 0 1 0 1 0 1 0 1 0 1",
   "0 1 0 1 0 1 0 1 0 1 0 1 0 2 2h 8 x 1 0 1 0 1 0 1 0 1 0 1 0 1 2 1 0 1 0 1 0 1 0 1 0 1 0 1",
   "0 1 0 1 0 1 0 1 0 1 0 1 0 1 0 1 0 1 0 1 0 1 0 1 0 1 0 1 0 1 0 1 0 1 0 1 0 1 0 1 0 1 0 1",
   "0 1 0 1 0 1 7 1 0 1 0 2 0 1 0 1 0 1 0 1 3 1 0 1 1 1 0 1 2 1 0 1 0 1 0 1 0 1 0 1 0 1 0 1",
   "0 1 0 1 0 5 0 5 0 1 0 1 0 1 0 1 0 1 0 1 0 1 0 4 0 1 0 2 0 1 0 1 0 1 0 1 0 1 0 1 0 1 0 q",
   "1 2 1e 3 9 6 1j 8 1x 8 b 6 37 b t 3 25 1 a 4 w 1 1i 9 d 2 9 2 2u o r a 5 2 5 2 5 9 6 1 6",
   "1 17 4 8 1 1 2c 19 2 9 6 8mb c m 4 1c 6qa 1 1 0 1 1 a 0 1 0 1 1 2 2 6s 0 43 w a3 h 1s 1",
   "1i 7 19 2 w f l 1 18 0 b0 b 1 p 1 i 1 1 1 e 2 d y 3e 5 2 4 18 3 2f 1 c 3 0 1b 19 3m s 3",
   "1c f r 4 z 9 t 5 16 5 t 1 10 4 d 2a 39 2 9 1a z 4 13 8 1f b 0 13 a 1 e 1 6 1 1 3 1f c 8m",
   "9 l a 7 o 0 3j 5 2 0 1 17 1 1 3 0 2 m 1 1z 8 8 1c i 1 1 5 w 3 q 5 q 12 1j 4 j 2 1d 1 1 5",
   "7 1 2 1 s 2 2 4 9 7 8 7 1r w 12 4 b 9 1h 3 s 2 q 5 p 7 3 c 6 28 20 3b 1e 7 19 8 9 6 f p",
   "s 8 1 5s u 1 15 1 2 2 1 g 5 8 8 x 19 8 15 m p 12 r k m 9 25 4 z 9 1p 1 4 d o 7 9 6 1g 1",
   "h 8 12 9 2n 1 j b h 1 1a 1q 6 1 0 1 3 1 e 1 a 6 1m 5 9 6 3 1 7 2 1 2 l 1 6 1 1 1 4 1 9 2",
   "1 2 2 2 0 6 0 5 6 2 6 3 4 b 9 1 0 2 0 1 11 1 9 1 0 2 0 1 3 1 9 1 1 8 1 t 2j 1 4 u 1z 8 9",
   "4m 1h 2 11 y 1w b 9 6 c j 1l 6 9 6 j s q 2 e 4 m 55 1n 3o 1e c 7 2 0 2 7 1 1 1 t 1 1 2 b",
   "9 9 1y 7 2 19 2 a r 1z 8 2a d 20 7 9 2e 7 2g x e 9 6 8 1 18 1 d a s 3 v 2 l 1 d 21 6 1 1",
   "1 17 3 0 1 1 1 8 8 9 6 5 1 1 1 10 1 1 1 5 7 9 6 17 4 9 6u o 7 g 1 14 3 s 2d 0 f 1d d pm",
   "2u 32 1 4 b 5f c 8v 1s0 2q d tr g l a 32y 5 g6 5a1 1l 1c6 fs 7 u 1 9 4 28 1 9 6 t 2 5 a",
   "1x a 9 1 6 1 k 5 i c0 1l 6 15 52 1m w o 18 22 4 1k 7 g 1s 4 b 6 9 5p1 15 x 2n 36 6pp 3 1",
   "6 1 1 1 82 f 0 t 2 2 0 e 3 8 az 1s4 2y 5 c 3 8 7 9 2 3 31c 5x 10 2 3 c3 6 m f 25 2 m 9",
   "37 1o 6t a 12 2 1g 7 d 8 1r 6 15 l 1x a 1r 1c j c j c 2e 9 o w7 i3 f 4 1 e uo u 6 q 5c 6",
   "1 g 2 6 1 1 1 4 2s 0 34 18 3 d 2 9 4 1 8w u h 1l 5 0 cw 15 5y 16 4 0 5c u 1 l 8 1 68 6 1",
   "3 1 1 1 e 1 5g 2 f 23 15 4 9 4 1 lt 1v 24 1o c2 1 7i 17 4 2r c e 2 e 1 e 1 10 l 4 v 0 w",
   "p 3 y 1 s 1k p 2o 5 4a rd 2 g 3 c 3 61 6 b 4 0 f b 4 1j 8 9 6 13 8 t 2 b 4 1 e 8 13 9j 8",
   "d 2 c 3 c 1 1k 1 1 1 i 1 c 3 b 5 42 1 2j a 0 sl wyn w 7u5 2 5rk f h9 3he 3t6 5 6jt upy",
   "8qn"]

def droppedLines : List String :=
  ["4t 0 ip 0 2rz 1 18z 1 2d 4 1kr 0 2c 4 5 5 3ck 0 14ez f 6n 0 4g 0 11bz 3 43z 7 h479 6n"]

def singleLines : List String :=
  ["1t q 1 1s 2n 1 1 73 a 1 1 41 8 2 1 73 3 1 1 172 4 1 1 7j 1 1 1 45 6 n 1 1s o 7 1 1s 14 o",
   "2 2 1g 2 2 2 5 3 2 2 8 4 2 2 9 n 2 2 1a 1 1 6p 1 3 2 2 6 1 1 ev 2 1 1 bo 1 2 2 2 4 1 1",
   "bg 1 1 1 2 2 2 1 be 2 1 1 2 3 1 1 4e 1 1 1 b8 1 1 1 ba 1 1 1 2 2 1 1 be 1 1 1 bi 2 1 1",
   "bq 1 1 1 bm 1 1 1 2 4 1 1 bq 1 1 1 bu 2 1 1 bw 1 3 2 2 6 1 1 c4 1 1 1 2 2 1 1 c4 3 1 1 2",
   "2 1 1 c4 1 1 1 2 2 2 1 c2 2 2 2 2 4 1 1 c6 1 1 1 2 4 1 1 2 h 8 2 2 h 9 2 2 m 1 1 2 2 1 1",
   "5d 1 1 1 33 1 k 2 2 14 1 1 77 2 9 2 2 o 1 1 gnq 1 1 1 2 2 1 1 91 1 1 1 gnk 3 1 1 2 2 1 1",
   "at 1 1 1 3u 1 1 1 3y 1 5 2 2 2y 1 1 wf 1 1 1 45 1 1 1 wf 1 1 1 w1 1 1 1 39 1 1 1 37 1 1",
   "1 2x 1 1 1 vz 1 1 1 vx 14 1 1 6x 1 1 1 yx 1 1 1 yl 1 1 1 yd 1 1 1 4d 2k 2 1 3j 3 1 1 2n",
   "2 1 1 6g 17 2 2 2 4 1 1 ad 2 1 1 2 8 1 1 1ad 1 1 1 6g 7 1 1 24 1 1 1 13z 1 3 1 22 4 1 1",
   "3k 2 2 1 3i 3 h 1 1s i 9 1 1s 18 1 1 g 1 1 1 1n 1 1 1 1d 1 1 1 p 1 1 1 b 1 1 1 h 1 1 1 t",
   "1 1 1 17 2 c 2 2 o 1 1 2z 1 1 1 2n 1 1 1 2l 2 1 1 3b 1 1 1 3j 2 1 1 2 2 1 1 2z 1 1 1 2 3",
   "3 1 77 3 g 1 4g g w 1 1s 28 h 2 2 16 r 2 2 1i 1 1 u 1 7 2 2 f 1c 2 2 2p 12 1 2o 13 1 1 u",
   "1f 1 1 1r 1vl 1 1 1 b8 12 1 b7k 13 1 1 b7k 6 1 1 b7k 1b 1 1 1r l8 6 1 f 1oo 1 1 9ln 1 1",
   "1 9ll 1 1 1 9l3 1 2 1 9kz 2 1 1 9l1 1 1 1 9kn 1 1 1 9jb 1 1 1 1ifa 1 1 1 2 7 17 1 4n3 19",
   "3 1 4n3 33 1 1 bdh 1 1 1 b65 1 2 2 bdj 3 1 1 bdj 1 1 1 asp 1 8 1 bdj 9 1 1 bdl 1 1 1 apf",
   "1 1 1 bdn 1 1 1 bdl 1 2 1 bdj 2 1 1 bdh 1 1 1 ber 1 2 1 anb 2 1 1 3r 1 1 1 bex 1 2 1 bev",
   "2 1 1 an5 1 2 1 an3 2 1 1 bez 2 1 1 bev 1 1 1 bet 1 1 1 b2j 1 1 1 bet 1 1 1 anx 1 2 1 3f",
   "2 1 1 bez 1 2 1 bet 2 1 1 3b 1 1 1 amt 1 1 1 bex 1 1 1 31 1 3 1 a51 3 2 1 a43 2 1 1 bg1",
   "1 1 1 bfl 1 2 1 bfh 2 2 1 a5j 2 1 1 a4t 1 2 1 a4l f 1 1 9yt z 1 1 as1 1 1 1 bjl 1 1 1",
   "arz 1 1 1 bbv 1 1 1 arp 1 1 1 bjn 1 1 1 arn 1 1 1 arl 1 1 1 arf 1 3 1 arb 3 1 1 2f 1 1 1",
   "aol 1 1 1 arb 1 1 1 21 1 1 1 aon 1 1 1 ar9 1 1 1 ard 1 4 1 arb 4 1 1 ar7 1 2 1 aqp 2 1 1",
   "b2r 1 2 1 aqh 2 1 1 8n 1 2 1 aqj 2 1 1 bk1 1 3 1 aqf 3 1 1 aa5 1t 23 2 2 4b 1 1 37 3 1 1",
   "br1 2 1c 2 2 2w 8 1 f g 6 1 f g 8 1 f g 8 1 f g 6 1 f h 4 2 f f 8 1 f 9 1 1 ayx 2 1 1",
   "ayz 2 1 1 az1 2 1 1 az3 2 1 1 axl 2 1 1 axn 2 1 1 axp 1n 2 1 f 2 1 1 43 1 1 1 b31 3 1 1",
   "b2h a 1 1 4r 1 1 1 b3r 1 1 1 4r 1 1 1 b3t 8 1 1 b5x 5 2 1 f 2 1 1 5j 1 1 1 b4n 8 1 1 b51",
   "5 2 1 f 2 1 1 67 1 1 1 b3v 1 1 1 d 3 1 1 cgt 9 1 1 73 1 1 1 b4p 1 1 1 6z 1 1 1 b4p 5 1 1",
   "clb 1 1 1 cld 1 1 1 clf 1 1 1 clh 1 1 1 clj 1 1 1 cll 1 1 1 cln 1 1 1 clp 1 1 1 clr 1 1",
   "1 clt 1 1 1 clv 7 1 1 1 u 1 1 cnx 1c 1 1 cql h 1 1 cqn 1 1 1 cnj 3 6 1 cqn 6 1 1 crh 1 1",
   "1 mm 1 1 1 cql 1 2 1 crt 2 1 1 co1 1 a 1 crj a 1 1 csd 1 1 1 lq 1 1 1 crh 1 2 1 csp 3 1",
   "1 cpp 1 1 1 cpj 1 1 1 cp1 1 1 1 col 1 1 1 bxx 1 1 1 cpl 1 4 1 cph 4 1 1 cpf 1 2 1 cpb 2",
   "1 1 cp7 1 2 1 cp5 2s 1 1 cvx 5 1 1 c47 3 2 1 cw5 2 1 1 cw7 1 1 1 cw9 1 1 1 cwb 1 1 1 clr",
   "1 1 1 cwd 1 1 1 cwf 1 1 1 cwb 1 2 2 cwd 6 3 1 cwh 3 1 1 cwj 1 1 1 cwl 7 1 1 cwj 2 1 1",
   "bll 2 1 1 cwr 2 1 1 cxp 1 1 1 cqz 1 2 1 cyb 3 1 1 cyb 1 2 1 cyd 2 1 1 1k 1 1 1 cy3 1 1 1",
   "cy1 1 4 1 atl 4 1 1 cyn 3 1 1 bnb 1 1 1 bo3 1 1 1 bo5 1 1 1 bnh 1 1 1 bm 5 1 1 czl 1 2 1",
   "czn 2 2 1 czh o 1 1 d0t 4 1 1 d0b 5 1 1 d0h 3 1 1 d1b 1 2 1 d1v 2 1 1 d1f 1 1 1 d1p 4 1",
   "1 d17 5 1 1 d1d 3 1 1 d27 1 2 1 d2r 2 1 1 d2b 4 1 1 2 bq 2 1 532 8n 9 1 eal 2e q 1 ecp q",
   "q 1 ee5 q 1 1 eib 1ee 1c 1 2o 2o 1 1 2 2 1 1 gkt 1 1 1 5vv 1 1 1 gjx 3 3 2 2 6 1 1 gmv 1",
   "1 1 gl5 1 1 1 gn1 1 1 1 gmz 2 1 1 2 3 1 1 2 7 1 1 her 1 1 1 he5 1 2 1 got 2 1e 2 2 2z 2",
   "2 2 7 1 1 2 3h 1 1 r 8g 1 1 o64 2c 1 1 18ig d 1 1 c8w 1 1 1 cb2 1 1 1 cbs 1 1 1 cc8 1 1",
   "1 cdm 1 1 1 cg0 1 1 1 cgc 1 1 1 che 1 1 1 cis 1 1 1 dik 1 1 1 dkm 1 1 1 dkw 1 1 1 dm4 1",
   "1 1 dn6 1 1 1 doa 1 1 1 dr6 1 1 1 dsa 1 1 1 dsu 1 1 1 e1e 1 1 1 e6k 1 1 1 e82 1 1 1 e8a",
   "1 1 1 e9w 1 1 1 eac 1 1 1 ebs 1 1 1 ecg 1 1 1 eds 1 1 1 egm 1 1 1 ehk 1 1 1 ej0 1 1 1",
   "foy 1 1 1 fsw 1 1 1 gie 1 1 1 gjm 1 1 1 gk0 1 1 1 gkk 1 1 1 gli 1 1 1 gpo 1 1 1 hg4 1 1",
   "1 hiq 1 1 1 hpc 1 1 1 hqk 1 1 1 hrk 1 1 1 hsq 1 1 1 hvo 1 1 1 hvs 1 1 1 ifu 1 1 1 igc 1",
   "1 1 igy 1 1 1 ihm 1 1 1 io0 1 1 1 ioe 1 1 1 iom 1 1 1 iv2 1 1 1 ivk 1 1 1 iw8 1 1 1 iwm",
   "1 1 1 izy 1 1 1 j0u 1 1 1 j1s 1 1 1 j66 1 1 1 k2e 1 1 1 k4w 1 1 1 k60 1 1 1 lb2 1 1 1",
   "lba 1 1 1 lfu 1 1 1 lgo 1 1 1 lhc 1 1 1 lig 1 1 1 lkk 1 1 1 lks 1 1 1 lzk 1 1 1 m0u 1 1",
   "1 m2k 1 1 1 nmy 1 1 1 nqk 1 1 1 nrs 1 1 1 nuy 1 1 1 nw8 1 1 1 nwo 1 1 1 nx0 1 1 1 nzu 1",
   "1 1 o02 1 1 1 o1s 1 1 1 ppo 1 1 1 qeg 1 1 1 qf2 1 1 1 qfa 1 1 1 qfg 1 1 1 qfu 1 1 1 qgs",
   "1 1 1 qgu 1 1 1 qla 1 1 1 qx8 1 1 1 qxg 1 1 1 rg8 1 1 1 rgq 1 1 1 rjg 1 1 1 rjs 1 1 1",
   "rk8 1 1 1 rkm 1 1 1 rpm 1 1 1 rpy 1 1 1 s2k 1 1 1 s2w 1 1 1 s5k 1 1 1 s6g 1 1 1 s90 1 1",
   "1 sm4 1 1 1 smg 1 1 1 snc 1 1 1 t5g 1 1 1 tce 1 1 1 tco 1 1 1 tmq 1 1 1 tri 1 1 1 tu0 1",
   "1 1 uey 1 1 1 uma 1 1 1 vi4 1 1 1 vjk 1 1 1 vmo 1 1 1 vpg 1 1 1 vt6 1 1 1 vtq 1 1 1 vu0",
   "1 1 1 vvs 1 1 1 vzy 1 1 1 w0g 1 1 1 wjm 1 1 1 wjy 1 1 1 wke 1 1 1 wku 1 1 1 wlo 1 1 1",
   "wmg 1 1 1 wmm 1 1 1 wqy 1 1 1 wr4 1 1 1 wre 1 1 1 y9u 1 1 1 ybg 1 1 1 z1g 1 1 1 z22 1 1",
   "1 z3a 1 1 1 ziy 1 1 1 zjm 1 1 1 zni 1 1 1 zq0 1 1 1 10lg 1 1 1 10m8 1 1 1 10n0 1 1 1",
   "10ow 1 1 1 10qw 1 1 1 111w 1 1 1 112i 1 1 1 1166 1 1 1 11jw 1 1 1 11lk 1 1 1 11x4 1 1 1",
   "11y8 1 1 1 11yg 1 1 1 12am 1 1 1 12ks 1 1 1 12ro 1 1 1 12ry 1 1 1 12s6 1 1 1 1480 1 1 1",
   "148g 1 1 1 14h2 1 1 1 14pk 1 1 1 14po 1 1 1 14s8 1 1 1 14y0 1 1 1 14yo 1 1 1 14yu 1 1 1",
   "14z6 1 1 1 154k 1 1 1 156e 1 1 1 156o 1 1 1 157e 1 1 1 15gm 1 1 1 15je 1 1 1 15jk 1 1 1",
   "15to 1 1 1 15ts 1 1 1 15us 1 1 1 168q 1 1 1 16bc 1 1 1 16bo 1 1 1 16fi 1 1 1 16g0 1 1 1",
   "16g4 1 1 1 16gm 1 1 1 16i8 1 1 1 1744 1 1 1 17qa 1 1 1 17qs 1 1 1 17su 1 1 1 17u0 1 1 1",
   "17ue 1 1 1 17uw 1 1 1 17v2 1 1 1 17x8 1 1 1 17xe 1 1 1 17ya 1 1 1 17yi 1 1 1 17z6 1 1 1",
   "180m 1 1 1 181e 1 1 1 181s 1 1 1 1850 1 1 1 185s 1 1 1 185y 17 1 1 iwv 2 1 1 iw7 1g 1 1",
   "1z 2 1 1 dua 1 2 1 due 6w 2 1 cpt 2 1 1 cgh 1 1 1 cpv 1 2 1 cgh 2 3 1 cpz 3 6 1 cgj 6 1",
   "1 cp7 1 3 1 cqd 3 1 1 cp1 1 a 1 cqf a l 1 cm3 m 2 1 crl 2 2 1 chr 2 1 1 chl 1 1 1 chj 1",
   "1 1 chb 1 1 1 ch5 1 1 1 ch3 1 1 1 crn 1 1 1 cgz 1 1 1 cgx 1 2 1 crr 2 1 1 crp 1 2 1 crn",
   "2 1 1 crh 1 1 1 crf 1 5 1 crd 5 1 1 cr9 1 1 1 cr3 1 1 1 cql 1 1 1 cq9 1 1 1 cq1 1 2 1",
   "cgx 2 3 1 cpl 3 2 1 cn9 2 1 1 cn5 1 2 1 cmp 2 1 1 cmn 1 1 1 cm5 1 1 1 cm1 4 1 1 b8c 1 1",
   "1 bg2 1 1 1 b8q 1 1 1 eq4 1 1 1 b8o 1 1 1 bak 1 1 1 b8m 1 1 1 qpe 1 1 1 bcu 1 1 1 b98 1",
   "1 1 b7u 1 1 1 fmg 1 1 1 euc 1 1 1 bhy 4l 1 1 due 1 1 1 hgu 1 1 1 k8y 1 1 1 sy8 p 1 1 d6n",
   "1 2 1 d6l 2 3 1 d6j 3 1 1 d6h 1 2 1 d6f 2 5 1 d6d 5 1 1 1c10 1 1 1 1dua 1 1 1 1eqw 1 1 1",
   "1gk6 1 1 1 1hgs 1 1 1 1ide 1 1 1 1k6o 1 1 1 1lzy 1 1 1 1mwk 1 1 1 1opu 1 1 1 1pmg 1 1 1",
   "1qj2 1 1 1 1rfo 1 1 1 1sca 3 1 1 1mjo 2 1 1 av4 1 1 1 b2u 1 1 1 avi 1 1 1 ecw 1 1 1 b34",
   "1 1 1 c7k 1 1 1 auy 1 1 1 c7c 1 1 1 azu 1 1 1 cxc 1 1 1 kqk 1 1 1 og0 1 1 1 ms0 1 1 1",
   "ks6 1 1 1 11mu 1 1 1 eg0 1 1 1 ka2 1 1 1 l6a 1 1 1 kq6 1 1 1 rx2 1 1 1 d82 1 1 1 p8o 1 1",
   "1 zkm 1 1 1 ryk 1 1 1 coo 1 1 1 s5a 1 1 1 qbe 1 1 1 fcg 1 1 1 1122 1 1 1 c2i 1 1 1 cys 1",
   "1 1 n0y 1 1 1 1422 1 1 1 b8g 1 1 1 c8e 1 1 1 mf4 1 1 1 ato 1 1 1 avk 1 1 1 atm 1 1 1 h32",
   "1 1 1 d5i 1 1 1 cv8 1 1 1 g62 1 1 1 g3a 1 1 1 qy6 1 1 1 b6w 1 1 1 zle 1 1 1 cwa 1 1 1",
   "f6g w 1 1 uz 1 1 1 ux 1 1 1 uv 1 1 1 ut 1 2 1 ur 2 1 1 up 1 1 1 un 1 1 1 ul 1 1 1 uj 1 1",
   "1 uh 1 1 1 uf 1 1 1 ud 1 1 1 ub 1 1 1 u9 1 1 1 u7 1 1 1 u5 1 1 1 u1 1 1 1 tz 1 1 1 tx 1",
   "6 1 tv 6 1 1 tr 1 1 1 tn 1 1 1 tj 1 1 1 tf 1 5 1 tb 5 1 1 t9 1 1 1 t7 1 6 1 t5 6 4 1 t3",
   "mrp n 2 2 1s e 2 2 s 1 1 1s4j 1 1 1 1s4h 3p 7 2 2 g v 2 2 1q 1 1 1 9 2 2 2 4 1 1 1iiv 1",
   "5 2 2 d 1 1 2 2 1 1 1t8v 3 2 2 2 6 a 2 2 k 1 1 1taf 1 1 1 1tb1 1 1 1 1tat 1 1 1 1ta9 1 1",
   "1 1taf 2 1 1 1t7n 1 1 1 1t8z 1 1 1 1t7t 1 1 1 1fk 1 8 2 2 g 1 1 2n 1 1 1 1tad 1 1 1 1ilr",
   "1 2 2 2 4 1 1 1tcd 1 8 2 2 g 1 1 1toh 1 1 1 1tcb k 1 1 1u63 1 1 1 1u71 1 1 1 1u6x 1 1 1",
   "1u6d 1 1 1 2 3 1 1 1twh 1 1 1 1tu3 o3 1 1 1nt 1 1 1 23 1 1 1 1uqt 1 1 1 p a 1 1 1upj 7",
   "28 1 1nz3 fbk 1 1 16y7 1 1 1 1lp5 1 1 1 15yn 1 1 1 16r9 1 1 1 1ilh 1 1 1 1vhh 1 1 1 1t8h",
   "1 1 1 zbp 1 1 1 zbr 1 1 1 1r3j 1 1 1 14s1 1 1 1 1slj 1 1 1 1r47 1 1 1 1not 1 1 1 1fm1 1",
   "1 1 1c0j 1 1 1 19cx 1 1 1 18rx 1 1 1 18ab 1 1 1 15af 1 1 1 1kir 1 1 1 1jar 1 1 1 1htl 1",
   "1 1 1gmp 1 1 1 1a5x 1 1 1 14yl 1 1 1 11ld 1 1 1 1ve9 1 1 1 1tfx 1 1 1 1k4x 1 1 1 1hc5 1",
   "1 1 19er 1 1 1 zyb 1 1 1 1pk1 1 1 1 1i7h 1 1 1 19kb 1 1 1 185b 1 1 1 1nef 1 1 1 1b4r 1 1",
   "1 18nj 1 1 1 1ozf 1 1 1 1lpf 1 1 1 1j7j 1 1 1 1h0d 1 1 1 158b 1 1 1 1v0t 1 1 1 1u5p 1 1",
   "1 1tpd 1 1 1 1mmv 1 1 1 1k8r 1 1 1 1hdv 1 1 1 1fh3 1 1 1 1bvp 1 1 1 19i5 1 1 1 19df 1 1",
   "1 16dr 1 1 1 12q3 1 1 1 111v 1 1 1 101r 1 1 1 1eu5 1 1 1 1egp 1 1 1 1cu1 1 1 1 1aeh 1 1",
   "1 14dx 1 1 1 zup 1 1 1 17md 1 1 1 1rd1 1 1 1 1oxp 1 1 1 1dc7 1 1 1 1bpp 1 1 1 1haf 1 1 1",
   "1erd 1 1 1 16vf 1 1 1 12ub 1 1 1 1rdv 1 1 1 1pzl 1 1 1 1kkx 1 1 1 1j39 1 1 1 1im5 1 1 1",
   "1d1b 1 1 1 1cmp 1 1 1 134b 1 1 1 1trz 1 1 1 1bpr 1 1 1 1u5r 1 1 1 1u6p 1 1 1 1e9f 1 1 1",
   "1ctt 1 1 1 1adp 1 1 1 132f 1 1 1 17eb 1 1 1 1nh3 1 1 1 1kmr 1 1 1 17lp 1 1 1 1vm1 1 1 1",
   "1q7j 1 1 1 1okb 1 1 1 1gvn 1 1 1 1g4j 1 1 1 1tp3 1 1 1 1eq9 1 1 1 1v0r 1 1 1 1oqh 1 1 1",
   "1voz 1 1 1 1jjr 1 1 1 1mg1 1 1 1 1d3j 1 1 1 1tfz 1 1 1 1rmj 1 1 1 1fiv 1 1 1 1aa1 1 1 1",
   "17rd 1 1 1 1jzf 1 1 1 15s1 1 1 1 1jo3 1 1 1 1nft 1 1 1 1au5 1 1 1 1n6x 1 1 1 1g69 1 1 1",
   "1vgx 1 1 1 1ue5 1 1 1 1u8v 1 1 1 1l9t 1 1 1 1d7r 1 1 1 1b15 1 1 1 17px 1 1 1 14yl 1 1 1",
   "1tsj 1 1 1 1ta3 1 1 1 1r8b 1 1 1 1p2j 1 1 1 1md7 1 1 1 1ibv 1 1 1 1eph 1 1 1 13g1 1 1 1",
   "11kp 1 1 1 zxd 1 1 1 zud 1 1 1 1ty5 1 1 1 1lzd 1 1 1 1k4p 1 1 1 15xx 1 1 1 1p9v 1 1 1",
   "1o1p 1 1 1 1nvj 1 1 1 1mul 1 1 1 1iot 1 1 1 1hub 1 1 1 1gk5 1 1 1 1ehh 1 1 1 1cub 1 1 1",
   "1bv3 1 1 1 161v 1 1 1 1a39 1 1 1 15nx 1 1 1 14f5 1 1 1 1u6h 1 1 1 1tyr 1 1 1 1t4x 1 1 1",
   "1i25 1 1 1 18l7 1 1 1 17u5 1 1 1 1p69 1 1 1 1opn 1 1 1 1nbl 1 1 1 1k31 1 1 1 1djj 1 1 1",
   "1h0j 1 1 1 1vgn 1 1 1 1s9r 1 1 1 1qbp 1 1 1 1plt 1 1 1 1onz 1 1 1 1gxh 1 1 1 1gnd 1 1 1",
   "1c89 1 1 1 1byr 1 1 1 14vt 1 1 1 1307 1 1 1 12vp 1 1 1 12k7 1 1 1 1v83 1 1 1 1ekv 1 1 1",
   "1539 1 1 1 133z 1 1 1 1odr 1 1 1 1vmv 1 1 1 1upt 1 1 1 1qcb 1 1 1 1q7v 1 1 1 1mix 1 1 1",
   "1ks9 1 1 1 1hpf 1 1 1 1fy5 1 1 1 1a4r 1 1 1 15l9 1 1 1 zn1 1 1 1 1m61 1 1 1 13cf 1 1 1",
   "1u2j 1 1 1 1lsp 1 1 1 1lm3 1 1 1 1jip 1 1 1 1izh 1 1 1 1gud 1 1 1 1gbr 1 1 1 1f45 1 1 1",
   "1da5 1 1 1 12hv 1 1 1 1uiv 1 1 1 1nwn 1 1 1 1391 1 1 1 1v0x 1 1 1 1px3 1 1 1 1j9z 1 1 1",
   "1655 1 1 1 1oyh 1 1 1 1oa1 1 1 1 1ll1 1 1 1 1h2f 1 1 1 138r 1 1 1 1u93 1 1 1 1ti5 1 1 1",
   "1q7n 1 1 1 1me1 1 1 1 1lwl 1 1 1 1ldf 1 1 1 1jp7 1 1 1 1gvv 1 1 1 1g5h 1 1 1 1cd5 1 1 1",
   "18of 1 1 1 18nh 1 1 1 154p 1 1 1 134f 1 1 1 1tuf 1 1 1 1izn 1 1 1 1ti7 1 1 1 1hrv 1 1 1",
   "1god 1 1 1 19t7 1 1 1 138b 1 1 1 10z9 1 1 1 102v 1 1 1 1ltl 1 1 1 1jdf 1 1 1 1bff 1 1 1",
   "1e8n 1 1 1 1e3z 1 1 1 1djh 1 1 1 1hf7 1 1 1 1i9v 1 1 1 17pj 1 1 1 1vnd 1 1 1 1axb 1 1 1",
   "1ua1 1 1 1 1ucx 1 1 1 1pdh 1 1 1 1nq5 1 1 1 1dg9 1 1 1 1qm5 1 1 1 1jnx 1 1 1 1m77 1 1 1",
   "166v 1 1 1 18xj 1 1 1 13ef 1 1 1 18fx 1 1 1 1pbj 1 1 1 1uon 1 1 1 1swp 3 1 1 1rvv 2 1 1",
   "1mbf 3 1 1 1ugd 1 1 1 1hav 1 1 1 1fvd 1 1 1 1ewn 1 1 1 1eut 1 1 1 1euh 1 1 1 1es7 1 1 1",
   "130r 1 1 1 1dj1 1 1 1 1cch 2 1 1 19uj 2 1 1 17wz 3 1 1 15uh 1 1 1 15jl 4 1 1 12et 1 1 1",
   "12e5 1 1 1 12br 1 1 1 10j5 1 1 1 15lr 1 1 1 13an 1 1 1 1vcz 1 1 1 1uvn 1 1 1 1uq1 1 1 1",
   "1u4z 1 1 1 1u3j 1 1 1 1txj 1 1 1 1t0x 1 1 1 1sv5 1 1 1 1spr 1 1 1 1rzl 1 1 1 1rtv 1 1 1",
   "1qct 1 1 1 1qcb 1 1 1 1opd 1 1 1 1odn 1 1 1 1obl 1 1 1 1o63 1 1 1 1mub 1 1 1 1mm7 1 1 1",
   "1mcj 1 1 1 1lkt 1 1 1 1jmj 1 1 1 1jdj 1 1 1 1iyx 1 1 1 1i2b 1 1 1 1hrv 1 1 1 1gzz 1 1 1",
   "1f8z 1 1 1 1ezf 1 1 1 1eyv 1 1 1 1eyz 1 1 1 1eyl 1 1 1 1eyb 1 1 1 1exz 1 2 1 1evd 2 1 1",
   "1elj 1 1 1 1ehz 1 1 1 1e0b 1 1 1 1d51 1 1 1 1d3x 1 1 1 1d0v 1 1 1 1cjz 1 1 1 1cbv 1 1 1",
   "1bkt 1 1 1 1bd3 1 1 1 1bd5 1 1 1 1amn 1 1 1 18rj 1 1 1 18k5 1 1 1 1801 1 1 1 17wz 1 1 1",
   "17a9 1 1 1 177d 1 1 1 165b 1 1 1 15y5 1 1 1 13bd 1 1 1 12vn 1 1 1 12sd 1 1 1 1otn 1 1 1",
   "3ls4 1 1 1 1bjd 3 1 1 1w2b 1 1 1 1unr 1 1 1 1us3 1 1 1 1vj9 1 1 1 1uu5 1 1 1 1uqx 1 1 1",
   "1u8t 1 1 1 1u61 1 1 1 1t4l 1 1 1 1t8n 1 1 1 1t4x 1 1 1 1t0x 1 1 1 1s1v 1 1 1 1rwz 1 1 1",
   "1roz 1 1 1 1ro5 1 1 1 1r97 1 1 1 1qy9 1 1 1 1pi7 1 1 1 1phv 1 1 1 1p9x 1 1 1 1p67 1 1 1",
   "1opn 1 1 1 1oj5 1 1 1 1on3 1 1 1 1ofp 1 1 1 1oib 1 1 1 1oa9 1 1 1 1o6n 1 1 1 1nkh 1 1 1",
   "1nfn 1 1 1 1ncp 1 1 1 1myb 1 1 1 1mih 1 1 1 1m9h 1 1 1 1m9b 1 1 1 1m63 1 1 1 1kjb 1 1 1",
   "1kfr 1 1 1 1ju3 1 1 1 1j7d 1 1 1 1j8b 1 1 1 1j3j 1 1 1 1ipl 1 1 1 1i6z 1 1 1 1fqj 1 1 1",
   "1hw1 1 1 1 1hpb 1 1 1 1hij 1 1 1 1h0f 1 1 1 1gs7 1 1 1 1gpb 1 1 1 1gct 1 1 1 1gcr 1 1 1",
   "1g3b 1 1 1 1g2f 1 1 1 1g13 1 1 1 1fwd 1 1 1 1fwz 1 1 1 1fb1 1 1 1 1ek5 1 1 1 1e55 1 1 1",
   "1dut 1 1 1 1dif 1 1 1 1d9z 1 1 1 1crp 1 1 1 1cgp 1 1 1 1b5t 1 1 1 1ax5 1 1 1 19iv 1 1 1",
   "18tl 1 1 1 18pt 1 1 1 18oz 1 1 1 188j 1 1 1 185f 1 1 1 187z 1 1 1 1851 1 1 1 1859 1 1 1",
   "1869 1 1 1 1823 1 1 1 17xn 1 1 1 17ch 1 1 1 16hf 1 1 1 1601 1 1 1 15jp 1 1 1 157h 1 1 1",
   "13mb 1 1 1 13gn 1 1 1 13ab 1 1 1 132z 1 1 1 1311 1 1 1 130f 1 1 1 12xt 1 1 1 11th 1 1 1",
   "100z 1 1 1 3b3q 1 1 1 3b3c 1 1 1 3fns 1 1 1 23jd 1 1 1 21rp 1 1 1 21px 1 1 1 3roo 1 1 1",
   "3vuc 1 1 1 49a0 1 1 1 106h 1 1 1 102d 1z 1 1 2ovv 1 1 1 2owx 1 2 1 2owt 2 3 1 2owh 3 1 1",
   "2ovx 1 1 1 2ovv 1 1 1 2r5n 13 1 1 2oql 1 1 1 2oqn 1 1 1 2oq5 1 1 1 2oq7 1 1 1 2oq9 1 1 1",
   "2oqb 1 1 1 2oq7 1 1 1 2oq9 1 1 1 2oqb 1 1 1 2oqd 1 1 1 2oqb 1 1 1 2oqd 1 1 1 2oqf 1 1 1",
   "2oqh 1 1 1 2oqv 1 1 1 2oqx 1 1 1 2oqz 1 1 1 2or1 1 1 1 2oqt 1 1 1 2oqv 1 1 1 2oqx 1 1 1",
   "2oqz 1 1 1 2ord 1 1 1 2orf 1 1 1 2orh 1 1 1 2orj 1 1 1 2op7 1 1 1 2op9 1 1 1 2opb 1 1 1",
   "2opd 1 1 1 2opb 1 1 1 2opd 1 1 1 2opf 1 1 1 2oph 1 1 1 2orf 1 1 1 2orh 1 1 1 2orj 1 1 1",
   "2orl 1 1 1 2orp 1 1 1 2orr 1 1 1 2ort 1 1 1 2orv 1 1 1 2orr 1 1 1 2ort 1 1 1 2orv 1 2 1",
   "2orx 2 1 1 2orz 1 1 1 2os1 1 1 1 2os3 1 1 1 2ort 1 1 1 2orv 1 1 1 2orz 1 1 1 2os1 1 1 1",
   "2orz 1 1 1 2os1 1 1 1 2osf 1 1 1 2osh 1 1 1 2orn 1 1 1 2orp 1 1 1 2os5 1 1 1 2os7 1 1 1",
   "2oqx 1 1 1 2oqz 1 1 1 2or1 1 1 1 2or3 1 1 1 2oqt 1 1 1 2oqv 1 1 1 2oqx 1 1 1 2oqz 1 1 1",
   "2oqt 1 1 1 2oqv 1 1 1 2oqx 1 1 1 2oqz 1 1 1 2or5 1 1 1 2or7 1 1 1 2or9 1 1 1 2orb 1 1 1",
   "2oqv 1 2 1 2oqx 2 1 1 2oqz 1 1 1 2or1 1 1 1 2or3 1 1 1 2oqv 1 2 1 2oqx 2 1 1 2oqz 1 1 1",
   "2or1 1 1 1 2or3 1 1 1 2orb 1 1 1 2ord 1 1 1 2orf 1 1 1 2orh 1 1 1 2oqf 1 2 1 2oqh 2 1 1",
   "2oqj y 1 1 2ouj 1 1 1 2oul 1 1 1 2oun 1 1 1 2oup 1 1 1 2otb 1 1 1 2otd 1 1 1 2oth 1 1 1",
   "2otj 1 1 1 2oth 1 1 1 2otj 2 1 1 2oth 1 1 1 2otj 1 1 1 2otx 1 1 1 2otz 1 1 1 2ott 1 1 1",
   "2otv 1 1 1 2otj 1 1 1 2otl 1 1 1 2otn 1 1 1 2otp 1 1 1 2p19 1 1 1 2p1b j 1 1 2ov3 1 1 1",
   "2ov5 1 1 1 2ov7 1 1 1 2ov9 ep 1 1 2sav 1 1 1 29en 2 2 1 2sa9 2 1 1 2sbr 1 1 1 2sa5 1 2 1",
   "29dt q 1 1 2fqx 1 1 1 2fr1 1 1 1 2s9z 1 1 1 2sa1 1 2 1 2sd5 2 1 1 2s8n 1 1 1 2s8l 1 2 1",
   "29ft 2 2 1 29g5 2 2 1 29gl 2 2 1 29gt 2 4 1 29gp 6 1 1 2sbb 1 1 1 2sb9 5 1 1 2sbf 1 1 1",
   "2sbh 1 1 1 2sbj 1 1 1 2sef 1 1 1 29i7 3 1 1 2sdt 1 1 1 2sdx 1 1 1 2sdp 1 1 1 2sff 1 1 1",
   "2ft3 1 2 1 2sf5 2 1 1 2san 1 1 1 2sal 1 2 1 29ht 2 1 1 2sfr 1 1 1 2sfn 1 2 1 2sfh 2 1 1",
   "2sff 1 1 1 2sen 1 1 1 2sel 1 1 1 2sep 2 1 1 2sd3 1 2 1 2sg9 2 1 1 2set l 2 1 2q4d 2 2 1",
   "2q4f 2 2 1 2q4h 2 2 1 2q4j 2 2 1 2q4l 2 1 1 2q4n 1 1 1 2q4p 1 2 1 2q4r 2 2 1 2q4t 2 1 1",
   "2q4v 1 1 1 2q4x 1 2 1 2q4z 2 2 1 2q51 2 1 1 2q53 1 1 1 2q55 1 2 1 2q57 2 1 1 2q59 1 1 1",
   "2q5b 1 2 1 2q5d 2 1 1 2q5f 1 1 1 2q5h 1 2 1 2q5j 2 1 1 2q5l 1 1 1 2q5n 1 2 1 2q5p 2 1 1",
   "2q5r 1 1 1 2q5t 1 2 1 2q5v 2 2 1 2q5x 2 2 1 2q5z 2 2 1 2q61 2 2 1 2q63 2 1 1 2q65 1 1 1",
   "2q67 1 2 1 2q69 2 1 1 2q6b 1 1 1 2q6d 1 2 1 2q6f 2 1 1 2q6h 1 1 1 2q6j 1 2 1 2q6l 2 1 1",
   "2q6n 1 1 1 2q6p 1 2 1 2q6r 2 1 1 2q6t 1 1 1 2q6v 1 2 1 2q6x 2 1 1 2q6z 1 1 1 2q71 1 2 1",
   "2q73 2 1 1 2q75 1 1 1 2q77 1 2 1 2q79 2 1 1 2q7b 1 1 1 2q7d 1 1 1 2q7f 1 1 1 2q73 1 1 1",
   "2q75 1 1 1 2q77 1 2 1 2q79 2 1 1 2q7b 1 1 1 2q7d 1 2 1 2q7f 2 1 1 2q7h 1 1 1 2q7j 1 2 1",
   "2q7l 2 1 1 2q7n 1 1 1 2q7p 1 2 1 2q7r 2 1 1 2q7t 1 1 1 2q7v 1 2 1 2q7x 2 1 1 2q7z 1 1 1",
   "2q81 1 2 1 2q83 2 1 1 2q85 1 1 1 2q87 1 2 1 2q89 2 2 1 2q8b 2 2 1 2q8d 2 1 1 2q8f 1 1 1",
   "2q8h 1 1 1 2q8j d w 1 2sov w q 1 2sn3 q 10 1 2sov 10 2 1 2chf 2 1 1 2sth 1 2 1 29wr 2 1",
   "1 29xh 1 1 1 29jn 1 1 1 29k7 1 1 1 29or 1 1 1 29op 1 1 1 29on 1 1 1 29ol 1 1 1 29oj 1 1",
   "1 29ld 1 1 1 29lb 1 1 1 29l9 1 1 1 29nb 1 1 1 29k7 1 1 1 29p9 1 1 1 29p7 1 1 1 29p5 1 1",
   "1 29p3 1 2 1 29p1 2 1 1 29oz 1 1 1 29ox 1 1 1 29ov 1 1 1 29ot 1 1 1 29or 1 1 1 29op 1 1",
   "1 29on 1 1 1 29ol 1 1 1 29oj 1 1 1 29oh 1 1 1 29of 1 1 1 29ob 1 1 1 29o9 1 1 1 29o7 1 6",
   "1 29o5 6 1 1 29o1 1 1 1 29nx 1 1 1 29nt 1 1 1 29np 1 5 1 29nl 5 1 1 29nj 1 1 1 29nh 1 6",
   "1 29nf 6 1 1 29nd 1 1 1 29n7 1 2 1 29s9 3 2 1 2m9t 2 1 1 2m0h 1 1 1 2m9v 1 2 1 2m0h 2 3",
   "1 2m9z 3 6 1 2m0j 6 1 1 2m97 1 3 1 2mad 3 1 1 2m91 1 a 1 2maf d 6 1 2m69 8 6 1 2m6d 8 6",
   "1 2m6h 8 3 1 2m6l 6 2 1 2su3 2 1 1 2stn 2 1 1 2su3 1 1 1 2su7 1 1 1 2g6x 2 1 1 2eh7 1 4",
   "1 2fu9 4 1 1 2e8p 1 1 1 2e6d sy 14 1 28 4w 10 1 28 5c b 1 26 c f 1 26 g 7 1 26 8 2 1 26",
   "dp 2 1 2uzl 2 1 1 2vqx 1 1 1 2v2t 1 1 1 2v6r 2 1 1 2v2f 1 1 1 10eb 1 1 1 2v2f 1 1 1 2v2j",
   "1 2 1 2v6x 2 1 1 2kfr 1 1 1 2v6z 1 1 1 2v6p 1 1 1 2v2l 1 1 1 2v6h 1 1 1 2v6n 1 1 1 2v6t",
   "1 1 1 2v3l 1 1 1 2vob 1 1 1 2v3n 1 1 1 2v6n 1 1 1 2v53 1 2 1 2v31 2 1 1 2v6l 1 1 1 2d3k",
   "1 1 1 11y5 1 1 1 2v6n 1 1 1 2d3g 1 1 1 2v4z 1 1 1 2d3e 1 1 1 2vrn 1 2 1 2v6h 2 1 1 2vzb",
   "1 1 1 2v6f 1 1 1 2d36 1 2 1 2v6d 2 1 1 2v6b 1 1 1 2v45 1 1 1 2v4b 1 1 1 10gb 1 1 1 2v4d",
   "1 1 1 2v65 1 1 1 2em5 2 1 1 2v5x 1 2 1 2v4z 2 1 1 2v5l 1 3 1 2vhn 3 1 1 2d2a 1 1 1 2d3c",
   "xy 1f 1 3k 5s m 1 1s 28g w 1 1s gww w 1 1s 2o p 1 1i ily q 1 51wp q a 1 520v 1e8 q 1",
   "54ql q q 1 54s1 q q 1 54th q 7 1 54ux 8 i 1 54ux i q 1 54wd q q 1 54xt q 2 2 54z9 3 1 1",
   "54z9 3 1 1 54z9 3 2 1 54z9 4 4 1 54z9 5 8 1 54z9 8 4 1 550p 5 2 2 550p 3 6 1 550p 7 b 1",
   "550p b q 1 5525 q q 1 553l q 2 1 5551 3 4 1 5551 6 8 1 5551 9 7 1 5551 8 q 1 556h q 2 1",
   "557x 3 4 1 557x 5 5 1 557x 6 1 1 557x 4 7 1 557x 8 q 1 559d q q 1 55at q q 1 55c9 q q 1",
   "55dp q q 1 55f5 q q 1 55gl q q 1 55i1 q q 1 55jh q q 1 55kx q q 1 55md q q 1 55nt q q 1",
   "55p9 q q 1 55qp q 1 1 55gl 1 1 1 5523 3 h 1 54h9 h 1 1 54ht 1 7 1 54h9 7 1 1 4sj7 1 h 1",
   "54ip h 1 1 54in 1 7 1 54ip 7 1 1 4skx 1 1 1 54jx 1 1 1 54jt 1 1 1 54jr 1 1 1 54j5 1 1 1",
   "54jh 1 1 1 54jl 1 h 1 54kh h 1 1 54l1 1 7 1 54kh 7 1 1 4smf 1 h 1 54lx h 1 1 54lv 1 7 1",
   "54lx 7 1 1 4so5 1 1 1 54n5 1 1 1 54n1 1 1 1 54mz 1 1 1 54md 1 1 1 54mp 1 1 1 54mt 1 h 1",
   "54np h 1 1 54o9 1 7 1 54np 7 1 1 4spn 1 h 1 54p5 h 1 1 54p3 1 7 1 54p5 7 1 1 4srd 1 1 1",
   "54qd 1 1 1 54q9 1 1 1 54q7 1 1 1 54pl 1 1 1 54px 1 1 1 54q1 1 h 1 54qx h 1 1 54rh 1 7 1",
   "54qx 7 1 1 4ssv 1 h 1 54sd h 1 1 54sb 1 7 1 54sd 7 1 1 4sul 1 1 1 54tl 1 1 1 54th 1 1 1",
   "54tf 1 1 1 54st 1 1 1 54t5 1 1 1 54t9 1 h 1 54u5 h 1 1 54up 1 7 1 54u5 7 1 1 4sw3 1 h 1",
   "54vl h 1 1 54vj 1 7 1 54vl 7 1 1 4sxt 1 1 1 54wt 1 1 1 54wp 1 1 1 54wn 1 1 1 54w1 1 1 1",
   "54wd 1 1 1 54wh 1 1 1 54ux 1 1 1 54uz 3 a 1 56bf a a 1 56bz a a 1 56cj a a 1 56d3 a a 1",
   "56dn 1mi 9 1 581r 9 3 1 581p 3 b 1 581n b 1 1 581j 1 2 1 581h 2 1 1 3fy9 1 1 1 57tv 1 1",
   "1 5817 1 1 1 5815 1 1 1 57t5 1 1 1 57wf 1 1 1 57up 1 9 1 583l 9 2 1 583j 2 2 1 583f 2 1",
   "1 583d 1 6 1 583b 6 2 1 5839 2 1 1 57zf 1 1 1 582r 1 1 1 582v 1 1 1 582d 1 1 1 57y7 1 1",
   "1 3g39 1 1 1 57xz 1oz y 1 1w zk 2 1 5cq9 2 1 1 5cq3 1 1 1 5cpz 2 1 1 5cop 1 1 1 5cpz 1 1",
   "1 5cqb 1 1 1 5cpt 1 1 1 5cot 1 4 1 5cp9 4 1 1 5cqd 1 1 1 5cq3 1 1 1 5cpp 1 1 1 5cqf 1 1",
   "1 5cpr 1 1 1 5cqr 1 1 1 5cqn 1 2 1 5cr9 2 1 1 5cr5 1 1 1 5cr3 1 1 1 5cqt 1 1 1 5cqr 1 1",
   "1 5cqp 1 1 1 5cnv 1 1 1 5cjp 1 1 1 5cl5 1 1 1 5cnz 2 1 1 5cs1 1 1 1 5crv 2 1 1 5cqh 3 1",
   "1 5cs3 2 1 1 5cql 1 4 1 5cr1 4 1 1 5cs5 1 1 1 5crv 1 1 1 5crh 1 1 1 5cs7 1 1 1 5crj 2 1",
   "1 5csf 1 2 1 5ct1 2 1 1 5csx 2 1 1 5csl 2 1 1 5csh 7 1 1 5ctn 5 1 1 5ctv 2 1 1 5csd 2 2",
   "2 5cst 3 1 1 5ctx 1 1 1 5ctn 2 1 1 5ctz 1 1 1 5ctb 2 1 1 5cu7 3 1 1 5cup 2 1 1 5cud 2 1",
   "1 5cu9 2 1 1 5cn9 2 1 1 5crj 2 1 1 5cvl 1 1 1 5cvf 2 1 1 5cu1 3 1 1 5cvn 1 1 1 5cv5 1 1",
   "1 5cu5 1 2 2 5cul 3 1 1 5cul 1 1 1 5cvp 1 1 1 5cvf 1 1 1 5cv1 1 1 1 5cvr 1 1 1 5cv3 2 1",
   "1 5cvz 1 2 1 5cwl 2 1 1 5cwh 2 1 1 5cw5 1 1 1 5cw3 1 1 1 5cw1 1 1 1 5ct7 2 1 1 5cqh 2 2",
   "1 5cxd 2 1 1 5cx7 1 1 1 5cx3 1 2 1 5cvt 2 1 1 5cx3 1 1 1 5cxf 1 1 1 5cwx 1 1 1 5cvx 2 3",
   "1 5cwd 3 1 1 5cxh 1 1 1 5cx7 1 1 1 5cwt 1 1 1 5cxj 1 1 1 5cwv 1 1 1 5cxv 1 1 1 5cxr 1 2",
   "1 5cyd 2 1 1 5cy9 1 1 1 5cy7 1 1 1 5cxx 1 1 1 5cxv 1 1 1 5cxt 6 1 1 5cz5 1 1 1 5cyz 1 1",
   "1 5cyv 2 1 1 5cxl 1 1 1 5cyv 1 1 1 5cz7 1 1 1 5cyp 1 1 1 5cxp 2 3 1 5cy5 3 1 1 5cz9 1 1",
   "1 5cyz 1 1 1 5cyl 1 1 1 5czb 1 1 1 5cyn 1 1 1 5czn 1 1 1 5czj 1 2 1 5d05 2 1 1 5d01 1 1",
   "1 5czz 1 1 1 5czp 1 1 1 5czn 1 1 1 5czl hc 1 1 5g9b 1 1 1 5g8j 4 q 1 5g9p 5u 1 1 4xi1 e",
   "1 1 4dxl 1 1 1 4goj 1 1 1 4jnv 1 1 1 4xhz 1 1 1 4lqn 1 1 1 4hkl 1 1 1 3yat 1 1 1 4hjv 1",
   "1 1 4lpj 1 1 1 4cfl 1 1 1 4835 1 1 1 4cn7 1 1 1 4k9p 1 1 1 4f1d 1 1 1 4kkh 1 1 1 4cm5 1",
   "1 1 4kcl 1 1 1 43b1 1 1 1 46it 1 1 1 3x83 1 1 1 4hnr 1 1 1 4jiv 1 1 1 48wz 1 1 1 4dur 1",
   "1 1 4dk5 1 1 1 4lzl 1 1 1 4lz5 1 1 1 3vsx 1 1 1 4fpn 1 1 1 4lxb 1 1 1 4jn9 1 1 1 4dov 1",
   "1 1 3wxr 1 1 1 4dyz 1 1 1 44td 1 1 1 44fl 1 1 1 4jmf 1 1 1 4961 1 1 1 4c49 1 1 1 4c4d 1",
   "1 1 46ix 1 1 1 4k99 1 1 1 4iyv 1 1 1 3vff l 1 1 4f3l 1 1 1 4jpf 1wf a 1 5klb 1dsg 1 1",
   "7hc5 1 1 1 7hch 1 1 1 7hc1 1 1 1 2pj5 1 1 1 7gw7 1 1 1 7grx 1 1 1 7gr9 1 1 1 7gnd 1 1 1",
   "7ggr 1 1 1 7gf3 1 1 1 7gat 1 1 1 7gc7 1 1 1 7rh7 1 1 1 2nj9 1 1 1 7g5d 1 1 1 7g51 1 1 1",
   "7g47 1 1 1 7g37 1 1 1 2nzf 1 1 1 7rg3 1 1 1 7g49 1 1 1 7g27 1 1 1 2nx1 1 1 1 7g1r 1 1 1",
   "7g13 1 1 1 7h5l 1 1 1 7g0r 1 1 1 7g0b 1 1 1 14e1 1 1 1 7fwv 1 1 1 7fw5 1 1 1 7ren 1 1 1",
   "7ft5 1 1 1 7fsl 1 1 1 7fq7 1 1 1 7fpz 1 1 1 7rbx 1 1 1 7fln 1 1 1 7fll 1 1 1 7fk5 1 1 1",
   "7fiz 1 2 1 7fif 2 1 1 7fhj 1 1 1 7fet 1 1 1 7fef 1 1 1 7fdz 1 1 1 7fcn 1 1 1 7fc5 1 1 1",
   "7fc3 1 1 1 7fc5 1 1 1 7fc7 1 1 1 2m1b 1 1 1 73wp 1 1 1 7f87 1 1 1 7f73 1 1 1 2lk9 1 1 1",
   "7f6j 1 1 1 7f69 1 1 1 7f55 1 1 1 7ewr 1 1 1 7f2h 1 1 1 7f1n 1 1 1 7ezx 1 1 1 7ewr 1 1 1",
   "7es5 1 1 1 7eqr 1 1 1 7en3 1 1 1 7em9 1 1 1 7ekh 1 1 1 7ekj 1 1 1 7ejf 1 1 1 7eih 1 1 1",
   "7ei3 1 1 1 7ehb 1 1 1 7dyh 1 1 1 7edn 1 1 1 7dyj 1 1 1 7e9l 1 1 1 7e7p 1 1 1 7fyp 1 1 1",
   "7d8l 1 1 1 7don 1 1 1 7dml 1 1 1 7dl9 1 1 1 7dsj 1 1 1 7djb 1 1 1 7djf 1 1 1 7dcn 1 1 1",
   "2hux 1 1 1 7d8v 1 1 1 7d8n 1 1 1 7d7v 1 1 1 7d6t 1 1 1 7d6f 1 1 1 7d2x 1 1 1 2h67 1 1 1",
   "2h2l 1 1 1 7cvf 1 1 1 7csv 1 1 1 7cs9 1 1 1 7cwp 1 1 1 7cov 1 1 1 7qpd 1 1 1 7qon 1 1 1",
   "7cg1 1 1 1 7cd3 1 1 1 7cd5 1 1 1 2fyf 1 1 1 7c5v 1 1 1 7c4r 1 1 1 7c3z 1 1 1 7c3d 1 1 1",
   "2fg1 1 1 1 7c2t 1 1 1 7c2h 1 1 1 7arl 1 1 1 7c11 1 1 1 7qi1 1 1 1 7bxp 1 1 1 7bwz 1 1 1",
   "7bsh 1 1 1 7bvd 1 1 1 2ect 1 1 1 7bld 1 1 1 2ect 1 1 1 7bj3 1 1 1 7bjb 1 1 1 7bif 1 2 1",
   "7bcv 2 1 1 7q93 1 1 1 7bbh 1 1 1 7b95 1 1 1 7b81 1 1 1 7b5n 1 1 1 7q6j 1 1 1 2cy3 1 1 1",
   "7q57 1 1 1 7b1x 1 1 1 7b1t 1 1 1 7b1p 1 1 1 7b0n 1 1 1 xkp 1 1 1 7axv 1 1 1 2can 1 1 1",
   "2cap 1 1 1 6x43 1 1 1 7aw3 1 1 1 7aw5 1 1 1 7q1p 1 1 1 2665 1 1 1 1njv 1 1 1 7ast 1 1 1",
   "7asd 1 1 1 7q0f 1 1 1 7apv 1 1 1 7an3 1 1 1 7aml 1 1 1 7akr 1 1 1 7ad9 1 1 1 7pvx 1 1 1",
   "7pxn 1 1 1 7acd 1 1 1 2avz 1 1 1 7a9n 1 1 1 7a2j 1 1 1 7a2d 1 1 1 7a2b 1 1 1 7a2h 1 1 1",
   "79zz 1 1 1 79yx 1 1 1 79wz 1 1 1 79xt 1 1 1 79x9 1 1 1 79up 1 1 1 79tn 1 1 1 79th 1 1 1",
   "79s3 1 1 1 79rj 1 1 1 79nx 1 1 1 79jb 1 1 1 79hf 1 1 1 79al 1 1 1 2993 1 1 1 79br 1 1 1",
   "79ff 1 1 1 799h 1 1 1 7981 1 1 1 792p 1 1 1 28wp 1 1 1 78zd 1 1 1 794l 1 1 1 7967 1 1 1",
   "7pk7 1 1 1 78vn 1 1 1 78uj 1 1 1 78sv 1 1 1 78v1 1 1 1 7ph1 1 1 1 78j5 1 1 1 78hl 1 1 1",
   "27b3 1 1 1 78b3 1 1 1 77vr 1 1 1 785j 1 1 1 7p7t 1 1 1 781n 1 1 1 7p8v 1 1 1 7pax 1 1 1",
   "7gcf 1 1 1 7gcb 1 1 1 77vr 1 1 1 781d 1 1 1 6xqp 1 1 1 7lrv 1 1 1 77up 1 1 1 77uj 1 1 1",
   "77u9 1 1 1 77qx 1 1 1 77rl 1 1 1 25v7 1 1 1 7p61 1 1 1 77ih 1 1 1 77p1 1 1 1 77dp 1 1 1",
   "77ax 1 1 1 25m3 1 1 1 77aj 1 1 1 77gr 1 1 1 7737 1 1 1 7p1v 1 1 1 770r 1 1 1 76vf 1 1 1",
   "76rj 1 1 1 76h1 1 1 1 24r5 1 1 1 76eb 1 1 1 7ovf 1 1 1 76aj 1 1 1 23yp 1 1 1 767t 1 1 1",
   "7osn 1 1 1 7669 1 1 1 763t 1 2 1 762d 2 1 1 2383 1 1 1 2evt 1 1 1 2325 1 1 1 75uf 1 1 1",
   "22d9 1 1 1 75o9 1 1 1 75nj 1 1 1 75t9 1 1 1 75jl 1 1 1 75hf 1 1 1 75eb 1 1 1 75hd 1 1 1",
   "75f7 1 1 1 75ef 1 1 1 75dr 1 1 1 228f 1 1 1 75id 1 1 1 754h 1 1 1 7511 1 1 1 7oh9 1 1 1",
   "74vz 1 1 1 74w9 1 1 1 21kn 1 1 1 757t 1 1 1 74n5 1 1 1 21cz 1 1 1 21ad 1 1 1 74if 1 1 1",
   "74c3 1 1 1 74dn 1 1 1 74dv 1 1 1 7ocf 1 1 1 74bd 1 1 1 748l 1 1 1 748z 1 1 1 7461 1 1 1",
   "2odn 1 1 1 73xp 1 1 1 206r 1 1 1 73sz 1 1 1 1zon 1 1 1 73lb 1 1 1 73kn 1 1 1 73j7 1 1 1",
   "1yr9 1 1 1 73gn 1 1 1 73fj 1 1 1 1yap 1 1 1 1xyd 1 1 1 732z 1 1 1 7323 1 1 1 7ny3 1 1 1",
   "730r 1 1 1 7nxj 1 1 1 7nxl 1 1 1 72rx 1 1 1 72qt 1 1 1 72pp 1 1 1 72on 1 1 1 72kv 1 1 1",
   "7nsf 1 1 1 72fz 1 1 1 1wcd 1 1 1 72en 1 1 1 1w7d 1 1 1 72bz 1 1 1 2d6b 1 1 1 7237 1 1 1",
   "1v03 1 1 1 1uyv 1 1 1 1ur5 1 1 1 7ngj 1 1 1 7nfx 1 1 1 71qv 1 1 1 1uhn 1 1 1 1uhr 1 1 1",
   "1ufn 1 1 1 1ue9 1 2 1 71ot 2 1 1 71ov 1 1 1 71mj 1 1 1 7ndr 1 1 1 71j1 1 1 1 7nd5 1 1 1",
   "7n8r 1 1 1 1t9b 1 1 1 718f 1 1 1 7151 1 1 1 711j 1 1 1 7n4r 1 1 1 1sgn 1 1 1 70u1 1 1 1",
   "1sab 1 1 1 1s7z 1 1 1 70r1 1 1 1 70lz 1 1 1 7n0x 1 1 1 70hd 1 1 1 70gv 1 1 1 70gn 1 1 1",
   "1r5r 1 1 1 1qp7 1 1 1 1qp9 1 1 1 7081 1 1 1 7mpn 1 1 1 1qaz 1 1 1 6zw7 1 1 1 6zw3 1 1 1",
   "7mnt 1 1 1 1pzd 1 1 1 6zhj 1 1 1 7mh9 1 1 1 6zgf 1 1 1 6zgr 1 1 1 6zf7 1 1 1 1osp 1 1 1",
   "6z9t 1 1 1 7mc7 1 1 1 6z4d 1 1 1 6z15 1 1 1 6yxh 1 1 1 7m9l 1 1 1 1nrn 1 1 1 1npz 1 1 1",
   "7m7p 1 1 1 1nhz 1 1 1 6ygn 1 1 1 1nch 1 1 1 6yf9 1 1 1 6y9p 1 1 1 6y95 1 1 1 1mpt 1 1 1",
   "1mlt 1 1 1 6y49 1 1 1 1mej 1 1 1 6y3h 1 1 1 269t 1 1 1 7m1j 1 1 1 6xzz 1 1 1 6xvj 1 1 1",
   "7lyp 1 1 1 6xsd 1 1 1 7d0h 1 1 1 1lmn 1 1 1 1llx 1 1 1 267f 1 1 1 266z 1 1 1 6xhv 1 1 1",
   "6xhr 1 1 1 6s4d 1 1 1 7ltx 1 1 1 6xa3 1 1 1 6xah 1 1 1 6x9j 1 1 1 7g71 1 1 1 6x8j 1 1 1",
   "6x8h 1 1 1 6x7z 1 1 1 6x5r 1 1 1 1k8l 1 1 1 6x5x 1 1 1 6x2v 1 1 1 6wz1 1 1 1 6wuz 1 1 1",
   "6x2p 1 1 1 6wu7 1 1 1 6wrx 1 1 1 6wlr 1 1 1 6x09 1 1 1 6wtp 1 1 1 6wtn 1 1 1 6wst 1 1 1",
   "1jvf 1 1 1 1jeb 1 1 1 1jmp 1 1 1 7lkn 1 1 1 6wdp 1 1 1 6wdn 1 1 1 6wbr 1 1 1 1gw1 1 1 1",
   "6w7j 1 1 1 1ipt 1 1 1 7li9 1 1 1 7li3 1 1 1 1iil 1 1 1 1i2l 1 1 1 7lhp 1 1 1 6vut 1 1 1",
   "6vu7 1 1 1 6vtn 1 1 1 6vtl 1 1 1 6vq3 1 1 1 6vrz 1 1 1 6vkl 1 1 1 6vn3 1 1 1 6ver 1 1 1",
   "6vjb 1 1 1 6vfn 1 1 1 6ve7 1 1 1 7lcf 1 1 1 6v99 1 1 1 6v7j 1 1 1 7lap 1 1 1 6v2d 1 1 1",
   "6v29 1 1 1 1fwb 1 1 1 6uvx 1 1 1 6uvl 1 1 1 7l7p 1 1 1 6uu5 1 1 1 7s4d 1 1 1 1f09 1 1 1",
   "1eq3 1 1 1 7l0d 1 1 1 7kzx 1 1 1 6u71 1 1 1 6u2t 1 1 1 6tu5 1 1 1 6tix 1 1 1 1dg5 1 1 1",
   "6te9 1 1 1 6td3 1 1 1 6t85 1 1 1 6t33 1 1 1 1cgh 1 1 1 2njd 1 1 1 6syl 1 1 1 6szh 1 1 1",
   "6swn 1 1 1 2n7h 1 1 1 6sk3 1 1 1 6sel 1 1 1 19uj 1 1 1 19t3 1 1 1 6rvf 1 1 1 6rqb 1 1 1",
   "6rol 1 1 1 19bh 1 1 1 6ro5 1 1 1 6r8d 1 2 1 6qzl 2 1 1 6r4r 1 1 1 6qjn 1 1 1 6qi5 1 1 1",
   "17fp 1 1 1 6pxh 1 1 1 7jxv 1 1 1 6pv5 1 1 1 16ur 1 1 1 7jtj 1 1 1 6pgf 1 1 1 7c03 1 1 1",
   "6pb7 1 1 1 15cx 1 1 1 1515 1 1 1 7jmb 1 1 1 7jlx 1 1 1 6p0z 1 1 1 149t 1 1 1 7jir 1 1 1",
   "1425 1 1 1 6oyt 1 1 1 6oyv 1 1 1 6ox9 1 1 1 13md 1 1 1 6on3 1 1 1 7jbz 1 1 1 6oj9 1 1 1",
   "6ocb 1 1 1 6oav 1 1 1 6o7l 1 1 1 7j3n 1 1 1 11gx 1 1 1 6nsf 1 1 1 6nbp 1 1 1 6n19 1 1 1",
   "7ipp 1 1 1 7io1 1 1 1 6mvj 1 1 1 z9f 1 1 1 7inl 1 1 1 z6h 1 1 1 yrt 1 1 1 ykl 1 1 1 6mcz",
   "1 1 1 7iin 1 1 1 6m9n 1 1 1 6m9f 1 1 1 6m93 1 1 1 6m8l 1 1 1 6m89 1 1 1 6m69 1 1 1 x89"]

/-- The characters that become several: the length of the entry, the distance from
the character before, and the images. -/
def severalLines : List String :=
  ["3 4o w lk 3 7 w lg 3 5 w ld 3 4 w mf 4 4 1d 6dg 1g 4 1 1d 6dg 1e 4 1 1f 6dg 1g 3 36 2x",
   "lj 3 2 2x 2y 3 1 2x 2y 3 c 30 53 3 1 30 53 3 9 jg 32 3 3f 2s am 3 1 2s am 3 1 2s am 3 1",
   "30 2y 3 1 30 2y 3 1 30 2y 3 1 32 2y 3 1 32 2y 3 1 32 2y 3 11 2s 3e 3 1 2s 3e 3 1 2s 3e 3",
   "6d w li 3 1 w lj 3 1 w lm 3 1 w mg 3 1 w lf 3 1 w ln 3 2v lk ld 3 1i w qh 3 a w ld 4 1 w",
   "lk ld 3 ea 12d 136 3 6m 17r 19w 3 1 18o 19w 3 1 1c7 19w 3 1 18q 19w 3 kg 1sl 1to 3 1 1sm",
   "1to 3 1 1sn 1to 3 1 1ss 1to 3 1 1sx 1to 3 1 1sy 1to 3 1 1t7 1to 3 1 1tb 1to 3 3h 1wh 1x8",
   "3 1 1wi 1x8 3 2 1wv 1x8 3 2c 20i 20s 3 3 20o 20s 3 z 1zq 20s 3 1 1zr 20s 3 1 1zw 20s 3 3",
   "20b 20s 3 72 275 27w 3 1 276 27w 3 k6 2tp 2sy 3 3k 2x9 2wi 3 15 2wb 2vt 3 1 2wb 2w1 3 2u",
   "30i 33r 3 a 30s 33r 3 5 30x 33r 3 5 312 33r 3 5 317 33r 3 d 30g 33p 3 a 31t 31u 3 2 31t",
   "31w 3 1 33m 328 4 1 33m 31t 328 3 1 33n 328 4 1 33n 31t 328 3 8 31t 328 3 i 32q 33r 3 a",
   "330 33r 3 5 335 33r 3 5 33a 33r 3 5 33f 33r 3 d 32o 33p 3 2xt 2p ji 3 6e 64g qh 3 1 64h",
   "qh 3 1 64i qh 3 1 64j qh 3 1 64k qh 3 1 64l qh 3 1 64m qh 3 1 64n qh 3 1 64g qh 3 1 64h",
   "qh 3 1 64i qh 3 1 64j qh 3 1 64k qh 3 1 64l qh 3 1 64m qh 3 1 64n qh 3 1 65c qh 3 1 65d",
   "qh 3 1 65e qh 3 1 65f qh 3 1 65g qh 3 1 65h qh 3 1 65i qh 3 1 65j qh 3 1 65c qh 3 1 65d",
   "qh 3 1 65e qh 3 1 65f qh 3 1 65g qh 3 1 65h qh 3 1 65i qh 3 1 65j qh 3 1 674 qh 3 1 675",
   "qh 3 1 676 qh 3 1 677 qh 3 1 678 qh 3 1 679 qh 3 1 67a qh 3 1 67b qh 3 1 674 qh 3 1 675",
   "qh 3 1 676 qh 3 1 677 qh 3 1 678 qh 3 1 679 qh 3 1 67a qh 3 1 67b qh 3 3 67k qh 3 1 q9",
   "qh 3 1 q4 qh 3 3 69i qh 3 5 q9 qh 3 1 w lv 3 2 w lv 3 1 w n6 4 1 w lk n6 3 1 67o qh 3 1",
   "qf qh 3 1 q6 qh 3 3 69y qh 3 5 qf qh 4 1 w lv lc 4 1 w lv ld 4 1 w lv n6 4 e w lw lc 4 1",
   "w lw ld 4 1 w lw n6 4 e w lk lc 4 1 w lk ld 3 4 67w qh 3 1 qx qh 3 1 r2 qh 3 3 6ba qh 3",
   "5 qx qh 3 1 w ld 3 1 w lw 3 p w mr 3 s 6cy 6cy 4 1 6cy 6cy 6cy 3 2 6d1 6d1 4 1 6d1 6d1",
   "6d1 3 5 x x 3 2 w lh 3 9 1r 1r 3 1 1r x 3 1 x 1r 5 e 6cy 6cy 6cy 6cy 3 29 36 37 4 2g 2p",
   "1b 2r 4 1 2p 1b 37 3 2 4w 2r 4 2 2r 1b 33 4 1 2r 1b 39 3 3 4w 2u 3 d 32 33 3 a 37 31 4 1",
   "38 2t 30 3 1 38 31 4 p 2u 2p 3c 4 l 1d 6dg 1j 4 1 1d 6dg 1l 5 1 1d 6dg 1d 1c 4 1 1d 6dg",
   "1f 4 1 1e 6dg 1f 4 1 1d 6dg 1h 4 1 1e 6dg 1h 4 1 1f 6dg 1h 4 1 1g 6dg 1h 4 1 1d 6dg 1i 4",
   "1 1h 6dg 1i 4 1 1d 6dg 1k 4 1 1f 6dg 1k 4 1 1h 6dg 1k 4 1 1j 6dg 1k 3 1 1d 6dg 3 2 2x 2x",
   "4 1 2x 2x 2x 3 1 2x 3a 3 2 3a 2x 4 1 3a 2x 2x 5 1 3a 2x 2x 2x 3 1 2x 3c 3 2 3c 2x 4 1 3c",
   "2x 2x 3 6 2x 2x 4 1 2x 2x 2x 3 1 2x 3a 3 2 3a 2x 4 1 3a 2x 2x 5 1 3a 2x 2x 2x 3 1 2x 3c",
   "3 2 3c 2x 4 1 3c 2x 2x 4 e 1c 6dg 1f 3 4j 6qz 6qz 4 1 6qz 6qz 6qz 3 2 6r2 6r2 4 1 6r2",
   "6r2 6r2 3 ft 1d 1c 3 1 1d 1d 3 1 1d 1e 3 1 1d 1f 3 1 1d 1g 3 1 1d 1h 3 1 1d 1i 3 1 1d 1j",
   "3 1 1d 1k 3 1 1d 1l 3 1 1e 1c 4 1 14 1d 15 4 1 14 1e 15 4 1 14 1f 15 4 1 14 1g 15 4 1 14",
   "1h 15 4 1 14 1i 15 4 1 14 1j 15 4 1 14 1k 15 4 1 14 1l 15 5 1 14 1d 1c 15 5 1 14 1d 1d",
   "15 5 1 14 1d 1e 15 5 1 14 1d 1f 15 5 1 14 1d 1g 15 5 1 14 1d 1h 15 5 1 14 1d 1i 15 5 1",
   "14 1d 1j 15 5 1 14 1d 1k 15 5 1 14 1d 1l 15 5 1 14 1e 1c 15 4 l 14 2p 15 4 1 14 2q 15 4",
   "1 14 2r 15 4 1 14 2s 15 4 1 14 2t 15 4 1 14 2u 15 4 1 14 2v 15 4 1 14 2w 15 4 1 14 2x 15",
   "4 1 14 2y 15 4 1 14 2z 15 4 1 14 30 15 4 1 14 31 15 4 1 14 32 15 4 1 14 33 15 4 1 14 34",
   "15 4 1 14 35 15 4 1 14 36 15 4 1 14 37 15 4 1 14 38 15 4 1 14 39 15 4 1 14 3a 15 4 1 14",
   "3b 15 4 1 14 3c 15 4 1 14 3d 15 4 1 14 3e 15 5 11z 6qz 6qz 6qz 6qz 4 2w 1m 1m 1p 3 1 1p",
   "1p 4 1 1p 1p 1p 3 2u 8gt mw 3 14v w 9ll 3 1 w 9lm 3 3 9l4 9l6 3 2o 9mb 9mw 4 75 14 3cw",
   "15 4 1 14 3cy 15 4 1 14 3cz 15 4 1 14 3d1 15 4 1 14 3d2 15 4 1 14 3d3 15 4 1 14 3d5 15 4",
   "1 14 3d7 15 4 1 14 3d8 15 4 1 14 3da 15 4 1 14 3db 15 4 1 14 3dc 15 4 1 14 3dd 15 4 1 14",
   "3de 15 4 1 14 xz4 15 4 1 14 yvs 15 4 1 14 zc4 15 4 1 14 108s 15 4 1 14 10p4 15 4 1 14",
   "115g 15 4 1 14 1224 15 4 1 14 12ys 15 4 1 14 13f4 15 4 1 14 14bs 15 4 1 14 14s4 15 4 1",
   "14 158g 15 4 1 14 15os 15 4 1 14 1654 15 4 1 14 13p8 15 5 1 14 1350 13ic 15 5 1 14 1350",
   "16f8 15 4 2 14 feo 15 4 1 14 fik 15 4 1 14 fex 15 4 1 14 h5n 15 4 1 14 fis 15 4 1 14 g31",
   "15 4 1 14 fer 15 4 1 14 g2z 15 4 1 14 fh9 15 4 1 14 gg1 15 4 1 14 kco 15 4 1 14 m7f 15 4",
   "1 14 ldg 15 4 1 14 kdk 15 4 1 14 ssx 15 4 1 14 h7j 15 4 1 14 k4l 15 4 1 14 kkq 15 4 1 14",
   "kcp 15 4 1 14 ny6 15 4 1 14 glp 15 4 1 14 mm1 15 4 1 14 rs1 15 4 1 14 nz1 15 4 1 14 gc4",
   "15 4 1 14 fkz 15 4 1 14 gos 15 4 1 14 i1y 15 4 1 14 nhf 15 4 1 14 flt 15 4 1 14 rt3 15 4",
   "1 14 ggk 15 4 1 14 nzh 15 4 1 14 fm9 15 4 1 14 pnu 15 4 1 14 po3 15 4 d 34 38 2t 3 1 1e",
   "1d 3 1 1e 1e 3 1 1e 1f 3 1 1e 1g 3 1 1e 1h 3 1 1e 1i 3 1 1e 1j 3 1 1e 1k 3 1 1e 1l 3 1",
   "1f 1c 3 1 1f 1d 3 1 1f 1e 3 1 1f 1f 3 1 1f 1g 3 1 1f 1h 3 t 14c8 y5c 3 1 13p8 13dk 3 1g",
   "1f 1i 3 1 1f 1j 3 1 1f 1k 3 1 1f 1l 3 1 1g 1c 3 1 1g 1d 3 1 1g 1e 3 1 1g 1f 3 1 1g 1g 3",
   "1 1g 1h 3 1 1g 1i 3 1 1g 1j 3 1 1g 1k 3 1 1g 1l 3 1 1h 1c 3 1 1d kco 3 1 1e kco 3 1 1f",
   "kco 3 1 1g kco 3 1 1h kco 3 1 1i kco 3 1 1j kco 3 1 1k kco 3 1 1l kco 4 1 1d 1c kco 4 1",
   "1d 1d kco 4 1 1d 1e kco 3 1 2w 2v 4 1 2t 36 2v 3 1 2t 3a 4 1 30 38 2s 3 1c fl0 gp8 5 1",
   "9lu 9n5 9oc 9mw 5 1 9lu 9nv 9n9 9lt 5 1 9lu 9o3 9ne 9lu 4 1 9lu 9oc 9nv 5 1 9lw 9mz 9o3",
   "9m8 4 1 9lw 9o3 9mp 4 1 9ly 9m1 9o3 6 1 9m0 9mh 9m7 9oc 9mx 5 1 9m0 9oc 9m3 9oc 4 1 9m2",
   "9o3 9mh 4 1 9m2 9oc 9nk 4 1 9m3 9lw 9nu 5 1 9m3 9nt 9mr 9mw 5 1 9m3 9nx 9nu 9oc 4 1 9m4",
   "9nx 9o3 4 1 9m4 9o3 9ni 3 1 9m6 9m4 4 1 9m6 9mz 9oc 5 1 9m5 9np 9nu 9oc 5 1 9m6 9nv 9mo",
   "9oc 3 1 9m5 9nx 6 1 9m5 9nx 9m8 9nt 9nk 7 1 9m5 9nx 9nl 9oc 9mw 9nv 6 1 9m5 9nx 9nz 9mr",
   "9mw 4 1 9m8 9nt 9nk 6 1 9m8 9nt 9nk 9mw 9o3 6 1 9m7 9nv 9mk 9lw 9nx 5 1 9m7 9nx 9oc 9n1",
   "4 1 9m9 9oc 9mh 4 1 9mb 9nv 9my 4 1 9mb 9oc 9nh 5 1 9md 9lw 9m7 9nv 6 1 9md 9o3 9mp 9oc",
   "9nk 5 1 9mf 9nu 9o3 9m8 4 1 9mj 9o3 9mp 4 1 9mj 9o3 9mw 4 1 9mo 9oc 9mh 3 1 9mv 9mf 3 1",
   "9mx 9nv 3 1 9mw 9o3 3 1 9my 9n2 4 1 9n2 9mr 9mw 4 1 9n3 9lw 9ms 6 1 9n5 9oc 9mj 9o3 9mw",
   "4 1 9n5 9oc 9ms 5 1 9n4 9oc 9nw 9nv 6 1 9n8 9lu 9mh 9mw 9nv 4 1 9n8 9m7 9nv 3 1 9n8 9mb",
   "3 1 9n7 9nv 6 1 9n9 9lt 9nt 9mr 9mx 5 1 9n9 9lv 9oc 9mw 6 1 9na 9mr 9mf 9lz 9nv 4 1 9n9",
   "9nt 9o3 6 1 9nc 9m7 9mn 9oc 9nv 3 1 9ne 9ml 4 1 9ne 9mz 9n6 4 1 9nc 9nv 9ms 4 1 9ne 9o3",
   "9mh 4 1 9ne 9oc 9mg 4 1 9nd 9oc 9mn 5 1 9nh 9lw 9o3 9mw 4 1 9ng 9nv 9mw 3 1 9nf 9o3 4 1",
   "9nh 9o3 9mx 4 1 9nf 9oc 9nv 4 1 9nf 9oc 9o3 5 1 9ni 9lw 9m7 9nx 4 1 9ni 9lw 9nv 4 1 9ni",
   "9mr 9n3 4 1 9ni 9nv 9m7 6 1 9ni 9o3 9mf 9nr 9o3 5 1 9nj 9m7 9nx 9o3 3 1 9nj 9nu 6 1 9nj",
   "9nu 9n4 9oc 9nv 3 1 9nl 9m4 5 1 9nl 9m4 9mw 9o3 5 1 9nl 9oc 9mw 9nv 4 1 9no 9oc 9mx 4 1",
   "9no 9oc 9nv 4 1 9nq 9lu 9o3 5 1 9nu 9mr 9mw 9nv 3 1 9nu 9nt 4 1 9nv 9n8 9oc 5 1 9nv 9oc",
   "9na 9nv 3 1 9nw 9nk 6 1 9nw 9o3 9mw 9ma 9o3 4 1 9nz 9mr 9mw 3 1 1c m9l 3 1 1d m9l 3 1 1e",
   "m9l 3 1 1f m9l 3 1 1g m9l 3 1 1h m9l 3 1 1i m9l 3 1 1j m9l 3 1 1k m9l 3 1 1l m9l 4 1 1d",
   "1c m9l 4 1 1d 1d m9l 4 1 1d 1e m9l 4 1 1d 1f m9l 4 1 1d 1g m9l 4 1 1d 1h m9l 4 1 1d 1i",
   "m9l 4 1 1d 1j m9l 4 1 1d 1k m9l 4 1 1d 1l m9l 4 1 1e 1c m9l 4 1 1e 1d m9l 4 1 1e 1e m9l",
   "4 1 1e 1f m9l 4 1 1e 1g m9l 4 1 2w 34 2p 3 1 2s 2p 3 1 2p 39 4 1 2q 2p 36 3 1 33 3a 3 1",
   "34 2r 3 1 2s 31 4 1 2s 31 1e 4 1 2s 31 1f 3 1 2x 39 3 1 inn jdc 3 1 k6l gp8 3 1 hlz l7n",
   "3 1 k5q lh7 5 1 kkq irz fmi ny6 3 1 34 2p 3 1 32 2p 3 1 qk 2p 3 1 31 2p 3 1 2z 2p 3 1 2z",
   "2q 3 1 31 2q 3 1 2v 2q 4 1 2r 2p 30 5 1 2z 2r 2p 30 3 1 34 2u 3 1 32 2u 3 1 qk 2u 3 1 qk",
   "2v 3 1 31 2v 3 1 2z 2v 3 1 2w 3e 4 1 2z 2w 3e 4 1 31 2w 3e 4 1 2v 2w 3e 4 1 38 2w 3e 3 1",
   "qk 30 3 1 31 30 3 1 2s 30 3 1 2z 30 3 1 2u 31 3 1 32 31 3 1 qk 31 3 1 31 31 3 1 2r 31 3",
   "1 2z 31 4 1 31 31 1e 4 1 2r 31 1e 3 1 31 1e 4 1 2z 31 1e 4 1 31 31 1f 4 1 2r 31 1f 3 1",
   "31 1f 4 1 2z 31 1f 4 1 31 6qd 37 5 1 31 6qd 37 1e 3 1 34 2p 4 1 2z 34 2p 4 1 31 34 2p 4",
   "1 2v 34 2p 4 1 36 2p 2s 6 1 36 2p 2s 6qd 37 7 1 36 2p 2s 6qd 37 1e 3 1 34 37 3 1 32 37 3",
   "1 qk 37 3 1 31 37 3 1 34 3a 3 1 32 3a 3 1 qk 3a 3 1 31 3a 3 1 2z 3a 3 1 31 3a 3 1 34 3b",
   "3 1 32 3b 3 1 qk 3b 3 1 31 3b 3 1 2z 3b 3 1 31 3b 3 1 2z qx 3 1 31 qx 3 2 2q 35 3 1 2r",
   "2r 3 1 2r 2s 5 1 2r 6qd 2z 2v 3 2 2s 2q 3 1 2v 3d 3 1 2w 2p 3 1 2w 34 3 1 2x 32 3 1 2z",
   "2z 3 1 2z 31 3 1 2z 38 3 1 30 31 3 1 30 32 4 1 30 33 2v 3 1 30 3c 3 1 31 2q 4 1 31 2x 30",
   "4 1 31 33 30 3 1 34 2w 4 2 34 34 31 3 1 34 36 3 1 37 36 3 1 37 3a 3 1 3b 2q 4 1 3a 6qd",
   "31 4 1 2p 6qd 31 3 1 1d k4l 3 1 1e k4l 3 1 1f k4l 3 1 1g k4l 3 1 1h k4l 3 1 1i k4l 3 1",
   "1j k4l 3 1 1k k4l 3 1 1l k4l 4 1 1d 1c k4l 4 1 1d 1d k4l 4 1 1d 1e k4l 4 1 1d 1f k4l 4 1",
   "1d 1g k4l 4 1 1d 1h k4l 4 1 1d 1i k4l 4 1 1d 1j k4l 4 1 1d 1k k4l 4 1 1d 1l k4l 4 1 1e",
   "1c k4l 4 1 1e 1d k4l 4 1 1e 1e k4l 4 1 1e 1f k4l 4 1 1e 1g k4l 4 1 1e 1h k4l 4 1 1e 1i",
   "k4l 4 1 1e 1j k4l 4 1 1e 1k k4l 4 1 1e 1l k4l 4 1 1f 1c k4l 4 1 1f 1d k4l 4 1 2v 2p 30 3",
   "13b5 2u 2u 3 1 2u 2x 3 1 2u 30 4 1 2u 2u 2x 4 1 2u 2u 30 3 1 37 38 3 1 37 38 3 d 12s 12u",
   "3 1 12s 12d 3 1 12s 12j 3 1 132 12u 3 1 12s 12l 3 6 15l 14k 3 2 16a 14n 3 b 161 14x 3 1",
   "161 14y 4 1 161 14s 14x 4 1 161 14s 14y 3 1 15c 14n 3 1 15c 14o 3 1 15c 14s 3 1 15d 14s",
   "3 1 15e 14s 3 1 15f 14s 3 1 15g 14s 3 1 15h 14s 3 1 15i 14s 3 2 15k 14s 3 1 15l 14s 3 1",
   "15m 14s 3 1 15n 14s 3 1 15o 14s 3 2 15q 14s 3 2 15s 14s 3 1 15t 14s 3 2 15v 14s 3 1 15w",
   "14s 3 2 15y 14s 3 1 15z 14s 3 1 160 14s 3 1 161 14s 3 1 162 14s 3 1 15h 14p 3 1 15d 14v",
   "3 1 15n 14v 3 1 15w 14v 3 1 15c 15o 3 3y 1c7 19w 3 d 17q 17r 3 1 17q 17r 3 1 17q 1cl 3 1",
   "17q 1cl 3 1 17q 18o 3 1 17q 18o 3 1 17q 1c7 3 1 17q 1c7 3 1 17q 1c6 3 1 17q 1c6 3 1 17q",
   "1c8 3 1 17q 1c8 3 1 17q 1cg 3 1 17q 1cg 3 1 17q 1cg 3 1 17q 18p 3 1 17q 18p 3 1 17q 18p",
   "3 5 17q 17w 3 1 17q 17x 3 1 17q 18l 3 1 17q 18p 3 1 17q 18q 3 1 17s 17w 3 1 17s 17x 3 1",
   "17s 17y 3 1 17s 18l 3 1 17s 18p 3 1 17s 18q 3 1 17u 17w 3 1 17u 17x 3 1 17u 17y 3 1 17u",
   "18l 3 1 17u 18p 3 1 17u 18q 3 1 17v 17w 3 1 17v 18l 3 1 17v 18p 3 1 17v 18q 3 1 17w 17x",
   "3 1 17w 18l 3 1 17x 17w 3 1 17x 18l 3 1 17y 17w 3 1 17y 17x 3 1 17y 18l 3 1 183 17w 3 1",
   "183 17x 3 1 183 17y 3 1 183 18l 3 1 185 17x 3 1 185 18l 3 1 186 17w 3 1 186 17x 3 1 186",
   "17y 3 1 186 18l 3 1 187 17x 3 1 187 18l 3 1 188 18l 3 1 189 17w 3 1 189 18l 3 1 18a 17w",
   "3 1 18a 18l 3 1 18h 17w 3 1 18h 17x 3 1 18h 17y 3 1 18h 18l 3 1 18h 18p 3 1 18h 18q 3 1",
   "18i 17x 3 1 18i 18l 3 1 18i 18p 3 1 18i 18q 3 1 18j 17r 3 1 18j 17w 3 1 18j 17x 3 1 18j",
   "17y 3 1 18j 18k 3 1 18j 18l 3 1 18j 18p 3 1 18j 18q 3 1 18k 17w 3 1 18k 17x 3 1 18k 17y",
   "3 1 18k 18l 3 1 18k 18p 3 1 18k 18q 3 1 18l 17w 3 1 18l 17x 3 1 18l 17y 3 1 18l 18l 3 1",
   "18l 18p 3 1 18l 18q 3 1 18m 17w 3 1 18m 17x 3 1 18m 17y 3 1 18m 18l 3 1 18m 18p 3 1 18m",
   "18q 3 1 18n 17w 3 1 18n 18l 3 1 18n 18p 3 1 18n 18q 3 1 18q 17w 3 1 18q 17x 3 1 18q 17y",
   "3 1 18q 18l 3 1 18q 18p 3 1 18q 18q 3 1 180 19s 3 1 181 19s 3 1 18p 19s 4 1 w 18s 18x 4",
   "1 w 18t 18x 4 1 w 18u 18x 4 1 w 18v 18x 4 1 w 18w 18x 4 1 w 18x 19s 3 1 17q 181 3 1 17q",
   "182 3 1 17q 18l 3 1 17q 18m 3 1 17q 18p 3 1 17q 18q 3 1 17s 181 3 1 17s 182 3 1 17s 18l",
   "3 1 17s 18m 3 1 17s 18p 3 1 17s 18q 3 1 17u 181 3 1 17u 182 3 1 17u 18l 3 1 17u 18m 3 1",
   "17u 18p 3 1 17u 18q 3 1 17v 181 3 1 17v 182 3 1 17v 18l 3 1 17v 18m 3 1 17v 18p 3 1 17v",
   "18q 3 1 18h 18p 3 1 18h 18q 3 1 18i 18p 3 1 18i 18q 3 1 18j 17r 3 1 18j 18k 3 1 18j 18l",
   "3 1 18j 18p 3 1 18j 18q 3 1 18k 18l 3 1 18k 18p 3 1 18k 18q 3 1 18l 17r 3 1 18l 18l 3 1",
   "18m 181 3 1 18m 182 3 1 18m 18l 3 1 18m 18m 3 1 18m 18p 3 1 18m 18q 3 1 18p 19s 3 1 18q",
   "181 3 1 18q 182 3 1 18q 18l 3 1 18q 18m 3 1 18q 18p 3 1 18q 18q 3 1 17q 17w 3 1 17q 17x",
   "3 1 17q 17y 3 1 17q 18l 3 1 17q 18n 3 1 17s 17w 3 1 17s 17x 3 1 17s 17y 3 1 17s 18l 3 1",
   "17s 18n 3 1 17u 17w 3 1 17u 17x 3 1 17u 17y 3 1 17u 18l 3 1 17u 18n 3 1 17v 18l 3 1 17w",
   "17x 3 1 17w 18l 3 1 17x 17w 3 1 17x 18l 3 1 17y 17w 3 1 17y 18l 3 1 183 17w 3 1 183 17x",
   "3 1 183 17y 3 1 183 18l 3 1 185 17x 3 1 185 17y 3 1 185 18l 3 1 186 17w 3 1 186 17x 3 1",
   "186 17y 3 1 186 18l 3 1 187 17x 3 1 188 18l 3 1 189 17w 3 1 189 18l 3 1 18a 17w 3 1 18a",
   "18l 3 1 18h 17w 3 1 18h 17x 3 1 18h 17y 3 1 18h 18l 3 1 18i 17x 3 1 18i 18l 3 1 18j 17w",
   "3 1 18j 17x 3 1 18j 17y 3 1 18j 18k 3 1 18j 18l 3 1 18k 17w 3 1 18k 17x 3 1 18k 17y 3 1",
   "18k 18l 3 1 18k 18n 3 1 18l 17w 3 1 18l 17x 3 1 18l 17y 3 1 18l 18l 3 1 18m 17w 3 1 18m",
   "17x 3 1 18m 17y 3 1 18m 18l 3 1 18m 18n 3 1 18n 17w 3 1 18n 18l 3 1 18n 19s 3 1 18q 17w",
   "3 1 18q 17x 3 1 18q 17y 3 1 18q 18l 3 1 18q 18n 3 1 17q 18l 3 1 17q 18n 3 1 17s 18l 3 1",
   "17s 18n 3 1 17u 18l 3 1 17u 18n 3 1 17v 18l 3 1 17v 18n 3 1 183 18l 3 1 183 18n 3 1 184",
   "18l 3 1 184 18n 3 1 18j 18k 3 1 18j 18l 3 1 18k 18l 3 1 18m 18l 3 1 18m 18n 3 1 18q 18l",
   "3 1 18q 18n 4 1 18g 18u 18x 4 1 18g 18v 18x 4 1 18g 18w 18x 3 1 187 18p 3 1 187 18q 3 1",
   "189 18p 3 1 189 18q 3 1 18a 18p 3 1 18a 18q 3 1 183 18p 3 1 183 18q 3 1 184 18p 3 1 184",
   "18q 3 1 17x 18p 3 1 17x 18q 3 1 17w 18p 3 1 17w 18q 3 1 17y 18p 3 1 17y 18q 3 1 185 18p",
   "3 1 185 18q 3 1 186 18p 3 1 186 18q 3 1 184 17w 3 1 184 17x 3 1 184 17y 3 1 184 18l 3 1",
   "184 181 3 1 183 181 3 1 185 181 3 1 186 181 3 1 187 18p 3 1 187 18q 3 1 189 18p 3 1 189",
   "18q 3 1 18a 18p 3 1 18a 18q 3 1 183 18p 3 1 183 18q 3 1 184 18p 3 1 184 18q 3 1 17x 18p",
   "3 1 17x 18q 3 1 17w 18p 3 1 17w 18q 3 1 17y 18p 3 1 17y 18q 3 1 185 18p 3 1 185 18q 3 1",
   "186 18p 3 1 186 18q 3 1 184 17w 3 1 184 17x 3 1 184 17y 3 1 184 18l 3 1 184 181 3 1 183",
   "181 3 1 185 181 3 1 186 181 3 1 184 17w 3 1 184 17x 3 1 184 17y 3 1 184 18l 3 1 183 18n",
   "3 1 184 18n 3 1 187 18l 3 1 183 17w 3 1 183 17x 3 1 183 17y 3 1 184 17w 3 1 184 17x 3 1",
   "184 17y 3 1 187 18l 3 1 188 18l 3 1 17r 18r 3 1 17r 18r 4 j 17u 17w 18l 4 1 17u 17x 17w",
   "4 1 17u 17x 17w 4 1 17u 17x 18l 4 1 17u 17y 18l 4 1 17u 18l 17w 4 1 17u 18l 17x 4 1 17u",
   "18l 17y 4 1 17w 18l 17x 4 1 17w 18l 17x 4 1 17x 18l 18q 4 1 17x 18l 18p 4 1 183 17x 17w",
   "4 1 183 17w 17x 4 1 183 17w 18p 4 1 183 18l 17x 4 1 183 18l 17x 4 1 183 18l 17w 4 1 183",
   "18l 18l 4 1 183 18l 18l 4 1 185 17x 17x 4 1 185 17x 17x 4 1 185 18l 18l 4 1 184 17x 18l",
   "4 1 184 17x 18l 4 1 184 17w 18q 4 1 184 18l 17y 4 1 184 18l 17y 4 1 184 18l 18l 4 1 184",
   "18l 18l 4 1 186 17x 18p 4 1 186 17y 18l 4 1 186 17y 18l 4 1 187 18l 17x 4 1 187 18l 17x",
   "4 1 187 18l 18l 4 1 187 18l 18q 4 1 189 17w 18l 4 1 189 18l 18l 4 1 189 18l 18l 4 1 189",
   "18l 18p 4 1 18a 18l 18l 4 1 18a 18l 18q 4 1 18a 18l 18p 4 1 18h 17y 18l 4 1 18h 17y 18l",
   "4 1 18i 18l 17x 4 1 18i 18l 18l 4 1 18k 17x 18l 4 1 18k 17x 18q 4 1 18k 17x 18p 4 1 18k",
   "17w 17w 4 1 18k 17w 17w 4 1 18k 17y 18l 4 1 18k 17y 18l 4 1 18k 18l 17x 4 1 18k 18l 17x",
   "4 1 18l 17x 17w 4 1 18l 17x 18l 4 1 18l 17x 18q 4 1 18l 17w 17x 4 1 18l 17w 18l 4 1 18l",
   "17y 17w 4 1 18l 17y 18l 4 3 18l 17w 17y 4 1 18n 18l 17w 4 1 18n 18l 18l 4 1 18m 17x 18l",
   "4 1 18m 17x 18p 4 1 18m 17w 18l 4 1 18m 17w 18l 4 1 18m 17w 18p 4 1 18m 18l 18q 4 1 18m",
   "18l 18p 4 1 18q 18l 18l 4 1 18q 18l 18l 4 1 17s 17y 18q 4 1 17u 17w 18q 4 1 17u 17w 18p",
   "4 1 17u 17y 18q 4 1 17u 17y 18p 4 1 17u 18l 18q 4 1 17u 18l 18p 4 1 17w 18l 18q 4 1 17w",
   "17x 18p 4 1 17w 18l 18p 4 1 183 17y 18p 4 1 185 17x 18q 4 1 184 17x 18q 4 1 186 17x 18q",
   "4 1 18k 17w 18q 4 1 18k 18l 18q 4 1 18q 17x 18q 4 1 18q 17w 18q 4 1 18q 18l 18q 4 1 18l",
   "18l 18q 4 1 18i 18l 18q 4 1 18m 17x 18q 4 1 18i 18l 17x 4 1 18k 17x 18l 4 1 189 18l 18q",
   "4 1 18j 18l 18q 4 1 18m 17w 17x 4 1 18l 17y 18q 4 1 18k 17w 18l 4 1 18j 18l 18l 4 1 18k",
   "17w 18l 4 1 18m 17w 17x 4 1 17w 17x 18q 4 1 17x 17w 18q 4 1 18l 17w 18q 4 1 18h 18l 18q",
   "4 1 17s 17x 18q 4 1 18j 18l 18l 4 1 189 17w 18l 4 1 185 18l 18l 4 1 183 17y 18q 4 1 18m",
   "17w 18q 4 15 185 18k 1ci 4 1 18i 18k 1ci 5 1 17r 18k 18k 18n 5 1 17r 18j 17s 181 5 1 18l",
   "17x 18l 17z 5 1 185 18k 189 18l 5 1 181 183 18o 18k 5 1 189 18k 18q 18n 5 1 18o 183 18k",
   "18l 4 1 185 18k 18p j 1 185 18k 18p w 17r 18k 18k 18n w 189 18k 18q 18n w 18o 183 18k",
   "18l 9 1 17w 18k w 17w 18k 17r 18k 18n 5 1 181 1cc 17r 18k 3 25 w lh 3 1 w lh 3 1 w lh 3",
   "1 w lh 3 10 w 18r 3 1 18g 18r 3 1 w 18s 3 2 w 18t 3 2 w 18u 3 1 18g 18u 3 1 w 18v 3 1",
   "18g 18v 3 1 w 18w 3 1 18g 18w 3 1 w 18x 3 1 18g 18x 3 1 w 18y 3 1 18g 18y 3 3a 18k 17m 3",
   "1 18k 17m 3 1 18k 17n 3 1 18k 17n 3 1 18k 17p 3 1 18k 17p 3 1 18k 17r 3 1 18k 17r 3 6f w",
   "lg 3 15dn 2jx3 2jxh 3 1 2jx4 2jxh 4 1 2jx4 2jxh 2jxq 4 1 2jx4 2jxh 2jxr 4 1 2jx4 2jxh",
   "2jxs 4 1 2jx4 2jxh 2jxt 4 1 2jx4 2jxh 2jxu 3 2f 2jzt 2jxh 3 1 2jzu 2jxh 4 1 2jzt 2jxh",
   "2jxq 4 1 2jzu 2jxh 2jxq 4 1 2jzt 2jxh 2jxr 4 1 2jzu 2jxh 2jxr 3 669 1c 18 3 1 1d 18 3 1",
   "1e 18 3 1 1f 18 3 1 1g 18 3 1 1h 18 3 1 1i 18 3 1 1j 18 3 1 1k 18 3 1 1l 18 4 6 14 2p 15",
   "4 1 14 2q 15 4 1 14 2r 15 4 1 14 2s 15 4 1 14 2t 15 4 1 14 2u 15 4 1 14 2v 15 4 1 14 2w",
   "15 4 1 14 2x 15 4 1 14 2y 15 4 1 14 2z 15 4 1 14 30 15 4 1 14 31 15 4 1 14 32 15 4 1 14",
   "33 15 4 1 14 34 15 4 1 14 35 15 4 1 14 36 15 4 1 14 37 15 4 1 14 38 15 4 1 14 39 15 4 1",
   "14 3a 15 4 1 14 3b 15 4 1 14 3c 15 4 1 14 3d 15 4 1 14 3e 15 4 1 9hw 37 9hx 3 3 2r 2s 3",
   "1 3b 3e 3 s 2w 3a 3 1 31 3a 3 1 37 2s 3 1 37 37 4 1 34 34 3a 3 1 3b 2r 3 r 31 2r 3 1 31",
   "2s 3 1 31 36 3 10 2s 2y 3 34 9kr 9jf 3 1 9mb 9mb 4 1r 9hw kdo 9hx 4 1 9hw fex 9hx 4 1",
   "9hw fik 9hx 4 1 9hw i2x 9hx 4 1 9hw m9l 9hx 4 1 9hw jf7 9hx 4 1 9hw nh3 9hx 4 1 9hw gd9",
   "9hx 4 1 9hw k0n 9hx"]

def keptSet : RangeSet := .ofLines keptLines

def droppedSet : RangeSet := .ofLines droppedLines

def singleRuns : List Run := runsOfLines singleLines

def severalFrom (place : Nat) : List (List Nat) -> List (Nat × Text)
  | (gap :: images) :: rest =>
      (place + gap, images.map Char.ofNat) :: severalFrom (place + gap) rest
  | _ => []

def several : List (Nat × Text) := severalFrom 0 (groupsOfLines severalLines)

def isKept (c : Char) : Bool := c.toNat < 128 || keptSet.contains c

/-- What becomes of a character; `none` if it is refused.  An ASCII capital
becomes the small letter and any other ASCII character stays. -/
def mapHostChar? (c : Char) : Option Text :=
  if c.toNat < 128 then some [Text.asciiLowerChar c]
  else if keptSet.contains c then some [c]
  else if droppedSet.contains c then some []
  else
    match image? singleRuns c with
    | some image => some [image]
    | none => (several.find? (·.1 == c.toNat)).map (·.2)

def mapHost? : Text -> Option Text
  | [] => some []
  | c :: rest =>
      match mapHostChar? c, mapHost? rest with
      | some image, some images => some (image ++ images)
      | _, _ => none

end FileShare.Unicode
