import ReplySchema.Unicode.Ranges

/-! # Letter case

Two letters are case variants of each other when a chain of simple case mappings leads
from one to the other; a class of variants has at most four members.  The chains are
written as rows of links: first code point, distance to its variant, number of links of
this kind, and the step from one to the next.

Capitals of a text are taken letter by letter.  A few letters have no single capital
and become two or three letters.
-/

set_option autoImplicit false

namespace ReplySchema.Unicode

/-- Links that all have one distance. -/
structure Links where
  start : Nat
  distance : Nat
  count : Nat
  step : Nat

namespace Links

def ofNumbers : List Nat → List Links
  | a :: b :: c :: d :: rest => ⟨a, b, c, d⟩ :: ofNumbers rest
  | _ => []

def startsAt (n : Nat) (l : Links) : Bool :=
  l.start ≤ n && (n - l.start) % l.step == 0 && (n - l.start) / l.step < l.count

def base : Nat := 200000

end Links

/-- Links from a letter to the next greater variant. -/
def variantRow : String :=
    "65 32 26 1 107 8383 1 1 115 268 1 1 181 743 1 1 192 32 23 1 216 32 7 1 223 7615 1 1
    229 8262 1 1 255 121 1 1 256 1 24 2 306 1 3 2 313 1 8 2 330 1 23 2 377 1 3 2 384 195 1
    1 385 210 1 1 386 1 2 2 390 206 1 1 391 1 1 1 393 205 2 1 395 1 1 1 398 79 1 1 399 202
    1 1 400 203 1 1 401 1 1 1 403 205 1 1 404 207 1 1 405 97 1 1 406 211 1 1 407 209 1 1
    408 1 1 1 410 163 1 1 411 42561 1 1 412 211 1 1 413 213 1 1 414 130 1 1 415 214 1 1
    416 1 3 2 422 218 1 1 423 1 1 1 425 218 1 1 428 1 1 1 430 218 1 1 431 1 1 1 433 217 2
    1 435 1 2 2 439 219 1 1 440 1 1 1 444 1 1 1 447 56 1 1 452 1 2 1 455 1 2 1 458 1 2 1
    461 1 8 2 478 1 9 2 497 1 2 1 500 1 1 1 504 1 20 2 546 1 9 2 570 10795 1 1 571 1 1 1
    574 10792 1 1 575 10815 2 1 577 1 1 1 580 69 1 1 581 71 1 1 582 1 5 2 592 10783 1 1
    593 10780 1 1 594 10782 1 1 604 42319 1 1 609 42315 1 1 612 42343 1 1 613 42280 1 1
    614 42308 1 1 618 42308 1 1 619 10743 1 1 620 42305 1 1 625 10749 1 1 637 10727 1 1
    642 42307 1 1 647 42282 1 1 669 42261 1 1 670 42258 1 1 837 84 1 1 880 1 2 2 886 1 1 1
    891 130 3 1 895 116 1 1 902 38 1 1 904 37 3 1 908 64 1 1 910 63 2 1 912 7235 1 1 913
    32 17 1 931 31 1 1 932 32 8 1 944 7219 1 1 946 30 1 1 949 64 1 1 952 25 1 1 953 7173 1
    1 954 54 1 1 960 22 1 1 961 48 1 1 962 1 1 1 966 15 1 1 969 7517 1 1 975 8 1 1 977 35
    1 1 984 1 12 2 1010 7 1 1 1015 1 1 1 1018 1 1 1 1024 80 16 1 1040 32 32 1 1074 6222 1
    1 1076 6221 1 1 1086 6212 1 1 1089 6210 2 1 1098 6204 1 1 1120 1 17 2 1123 6180 1 1
    1162 1 27 2 1216 15 1 1 1217 1 7 2 1232 1 48 2 1329 48 38 1 4256 7264 38 1 4295 7264 1
    1 4301 7264 1 1 4304 3008 43 1 4349 3008 3 1 5024 38864 80 1 5104 8 6 1 7300 1 1 1
    7304 35266 1 1 7305 1 1 1 7545 35332 1 1 7549 3814 1 1 7566 35384 1 1 7680 1 75 2 7777
    58 1 1 7840 1 48 2 7936 8 8 1 7952 8 6 1 7968 8 8 1 7984 8 8 1 8000 8 6 1 8017 8 4 2
    8032 8 8 1 8048 74 2 1 8050 86 4 1 8054 100 2 1 8056 128 2 1 8058 112 2 1 8060 126 2 1
    8064 8 8 1 8080 8 8 1 8096 8 8 1 8112 8 2 1 8115 9 1 1 8131 9 1 1 8144 8 2 1 8160 8 2
    1 8165 7 1 1 8179 9 1 1 8498 28 1 1 8544 16 16 1 8579 1 1 1 9398 26 26 1 11264 48 48 1
    11360 1 1 1 11367 1 3 2 11378 1 1 1 11381 1 1 1 11392 1 50 2 11499 1 2 2 11506 1 1 1
    42560 1 23 2 42624 1 14 2 42786 1 7 2 42802 1 31 2 42873 1 2 2 42878 1 5 2 42891 1 1 1
    42896 1 2 2 42900 48 1 1 42902 1 10 2 42931 928 1 1 42932 1 8 2 42951 1 2 2 42956 1 1
    1 42960 1 1 1 42966 1 3 2 42997 1 1 1 64261 1 1 1 65313 32 26 1 66560 40 40 1 66736 40
    36 1 66928 39 11 1 66940 39 15 1 66956 39 7 1 66964 39 2 1 68736 64 51 1 68944 32 22 1
    71840 32 32 1 93760 32 32 1 125184 34 34 1"

def variantLinks : List Links := Links.ofNumbers (Ranges.numbers variantRow)

/-- The pairs of code points that a row of links joins. -/
def Links.pairs (l : Links) : List (Nat × Nat) :=
  (List.range l.count).map fun i => (l.start + i * l.step, l.start + i * l.step + l.distance)

def variantPairs : List (Nat × Nat) := variantLinks.flatMap Links.pairs

def addNeighbours (rs : Ranges) : Ranges :=
  Ranges.union rs (variantPairs.flatMap fun p =>
    if Ranges.contains p.1 rs then [(p.2, p.2)]
    else if Ranges.contains p.2 rs then [(p.1, p.1)]
    else [])

/-- All case variants of the members of a set.  A class has at most four members, so three steps
lead from one to any other. -/
def caseVariants (rs : Ranges) : Ranges := addNeighbours (addNeighbours (addNeighbours rs))

/-- Links from a letter to its capital.  Distances may be negative, so they are counted from
200000. -/
def capitalRow : String :=
    "97 199968 26 1 181 200743 1 1 224 199968 23 1 248 199968 7 1 255 200121 1 1 257 199999
    24 2 305 199768 1 1 307 199999 3 2 314 199999 8 2 331 199999 23 2 378 199999 3 2 383
    199700 1 1 384 200195 1 1 387 199999 2 2 392 199999 1 1 396 199999 1 1 402 199999 1 1
    405 200097 1 1 409 199999 1 1 410 200163 1 1 414 200130 1 1 417 199999 3 2 424 199999 1
    1 429 199999 1 1 432 199999 1 1 436 199999 2 2 441 199999 1 1 445 199999 1 1 447 200056
    1 1 453 199999 1 1 454 199998 1 1 456 199999 1 1 457 199998 1 1 459 199999 1 1 460
    199998 1 1 462 199999 8 2 477 199921 1 1 479 199999 9 2 498 199999 1 1 499 199998 1 1
    501 199999 1 1 505 199999 20 2 547 199999 9 2 572 199999 1 1 575 210815 2 1 578 199999 1
    1 583 199999 5 2 592 210783 1 1 593 210780 1 1 594 210782 1 1 595 199790 1 1 596 199794
    1 1 598 199795 2 1 601 199798 1 1 603 199797 1 1 604 242319 1 1 608 199795 1 1 609
    242315 1 1 611 199793 1 1 613 242280 1 1 614 242308 1 1 616 199791 1 1 617 199789 1 1
    618 242308 1 1 619 210743 1 1 620 242305 1 1 623 199789 1 1 625 210749 1 1 626 199787 1
    1 629 199786 1 1 637 210727 1 1 640 199782 1 1 642 242307 1 1 643 199782 1 1 647 242282
    1 1 648 199782 1 1 649 199931 1 1 650 199783 2 1 652 199929 1 1 658 199781 1 1 669
    242261 1 1 670 242258 1 1 837 200084 1 1 881 199999 2 2 887 199999 1 1 891 200130 3 1
    940 199962 1 1 941 199963 3 1 945 199968 17 1 962 199969 1 1 963 199968 9 1 972 199936 1
    1 973 199937 2 1 976 199938 1 1 977 199943 1 1 981 199953 1 1 982 199946 1 1 983 199992
    1 1 985 199999 12 2 1008 199914 1 1 1009 199920 1 1 1010 200007 1 1 1011 199884 1 1 1013
    199904 1 1 1016 199999 1 1 1019 199999 1 1 1072 199968 32 1 1104 199920 16 1 1121 199999
    17 2 1163 199999 27 2 1218 199999 7 2 1231 199985 1 1 1233 199999 48 2 1377 199952 38 1
    4304 203008 43 1 4349 203008 3 1 5112 199992 6 1 7296 193746 1 1 7297 193747 1 1 7298
    193756 1 1 7299 193758 2 1 7301 193757 1 1 7302 193764 1 1 7303 193819 1 1 7304 235266 1
    1 7545 235332 1 1 7549 203814 1 1 7566 235384 1 1 7681 199999 75 2 7835 199941 1 1 7841
    199999 48 2 7936 200008 8 1 7952 200008 6 1 7968 200008 8 1 7984 200008 8 1 8000 200008
    6 1 8017 200008 4 2 8032 200008 8 1 8048 200074 2 1 8050 200086 4 1 8054 200100 2 1 8056
    200128 2 1 8058 200112 2 1 8060 200126 2 1 8112 200008 2 1 8126 192795 1 1 8144 200008 2
    1 8160 200008 2 1 8165 200007 1 1 8526 199972 1 1 8560 199984 16 1 8580 199999 1 1 9424
    199974 26 1 11312 199952 48 1 11361 199999 1 1 11365 189205 1 1 11366 189208 1 1 11368
    199999 3 2 11379 199999 1 1 11382 199999 1 1 11393 199999 50 2 11500 199999 2 2 11507
    199999 1 1 11520 192736 38 1 11559 192736 1 1 11565 192736 1 1 42561 199999 23 2 42625
    199999 14 2 42787 199999 7 2 42803 199999 31 2 42874 199999 2 2 42879 199999 5 2 42892
    199999 1 1 42897 199999 2 2 42900 200048 1 1 42903 199999 10 2 42933 199999 8 2 42952
    199999 2 2 42961 199999 1 1 42967 199999 2 2 42998 199999 1 1 43859 199072 1 1 43888
    161136 80 1 65345 199968 26 1 66600 199960 40 1 66776 199960 36 1 66967 199961 19 2
    66968 199961 5 2 66980 199961 7 2 66996 199961 3 2 67004 199961 1 1 68800 199936 51 1
    71872 199968 32 1 93792 199968 32 1 125218 199966 34 1"

/-- Letters whose capital is several letters: letter, number of capitals, capitals. -/
def expansionRow : String :=
    "223 2 83 83 329 2 700 78 496 2 74 780 912 3 921 776 769 944 3 933 776 769 1415 2 1333
    1362 7830 2 72 817 7831 2 84 776 7832 2 87 778 7833 2 89 778 7834 2 65 702 8016 2 933
    787 8018 3 933 787 768 8020 3 933 787 769 8022 3 933 787 834 8064 2 7944 921 8065 2 7945
    921 8066 2 7946 921 8067 2 7947 921 8068 2 7948 921 8069 2 7949 921 8070 2 7950 921 8071
    2 7951 921 8072 2 7944 921 8073 2 7945 921 8074 2 7946 921 8075 2 7947 921 8076 2 7948
    921 8077 2 7949 921 8078 2 7950 921 8079 2 7951 921 8080 2 7976 921 8081 2 7977 921 8082
    2 7978 921 8083 2 7979 921 8084 2 7980 921 8085 2 7981 921 8086 2 7982 921 8087 2 7983
    921 8088 2 7976 921 8089 2 7977 921 8090 2 7978 921 8091 2 7979 921 8092 2 7980 921 8093
    2 7981 921 8094 2 7982 921 8095 2 7983 921 8096 2 8040 921 8097 2 8041 921 8098 2 8042
    921 8099 2 8043 921 8100 2 8044 921 8101 2 8045 921 8102 2 8046 921 8103 2 8047 921 8104
    2 8040 921 8105 2 8041 921 8106 2 8042 921 8107 2 8043 921 8108 2 8044 921 8109 2 8045
    921 8110 2 8046 921 8111 2 8047 921 8114 2 8122 921 8115 2 913 921 8116 2 902 921 8118 2
    913 834 8119 3 913 834 921 8124 2 913 921 8130 2 8138 921 8131 2 919 921 8132 2 905 921
    8134 2 919 834 8135 3 919 834 921 8140 2 919 921 8146 3 921 776 768 8147 3 921 776 769
    8150 2 921 834 8151 3 921 776 834 8162 3 933 776 768 8163 3 933 776 769 8164 2 929 787
    8166 2 933 834 8167 3 933 776 834 8178 2 8186 921 8179 2 937 921 8180 2 911 921 8182 2
    937 834 8183 3 937 834 921 8188 2 937 921 64256 2 70 70 64257 2 70 73 64258 2 70 76
    64259 3 70 70 73 64260 3 70 70 76 64261 2 83 84 64262 2 83 84 64275 2 1348 1350 64276 2
    1348 1333 64277 2 1348 1339 64278 2 1358 1350 64279 2 1348 1341"

def capitals (c : Char) : List Char :=
  let n := c.toNat
  match (expansions expansionRow).lookup n with
  | some ns => ns.map Char.ofNat
  | none =>
      match (Links.ofNumbers (Ranges.numbers capitalRow)).find? (Links.startsAt n) with
      | some l => [Char.ofNat (n + l.distance - Links.base)]
      | none => [c]

def capitalize (s : String) : String :=
  String.ofList (s.toList.flatMap fun c => if c.toNat < 0x80 then [c.toUpper] else capitals c)

end ReplySchema.Unicode
