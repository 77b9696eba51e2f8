import ReplySchema.Unicode.Canonical
import ReplySchema.Unicode.Case

/-! # Characters in names of hosts

Before a name beyond ASCII can be written as a name of a host, its characters are mapped:
capitals to small letters, variants of letters to the letters, other full stops to the
point.  Some characters vanish, some may not stand in a name at all, and the others are
kept.  What is mapped is brought into canonical form.
-/

set_option autoImplicit false

namespace ReplySchema.Domain

open Unicode (Ranges Links)

/-! ## §1  Tables -/

/-- The characters that are kept, as a row of gaps and lengths. -/
def keptRow : String :=
    "0 65 26 37 33 7 1 1 1 2 1 1 1 2 4 2 3 1 3 1 23 1 7 33 1 1 1 1 1 1 1 1 1 1 1 1 1 1 1 1
    1 1 1 1 1 1 1 1 1 1 1 1 1 1 1 1 1 1 1 1 1 1 1 1 1 1 1 1 1 1 1 1 1 1 3 1 1 2 1 1 1 1 1
    1 3 1 1 1 1 1 1 1 2 1 1 1 1 1 1 1 1 1 1 1 1 1 1 1 1 1 1 1 1 1 1 1 1 1 1 1 1 1 1 1 1 1
    1 1 1 1 1 1 1 1 1 1 1 1 2 1 1 1 1 1 1 1 2 1 1 1 2 1 3 2 4 1 2 1 3 3 2 1 2 1 1 1 1 1 2
    1 1 2 1 1 2 1 3 1 1 1 2 3 1 7 10 1 1 1 1 1 1 1 1 1 1 1 1 1 1 2 1 1 1 1 1 1 1 1 1 1 1 1
    1 1 1 1 1 2 4 1 3 1 1 1 1 1 1 1 1 1 1 1 1 1 1 1 1 1 1 1 1 1 1 1 1 1 1 1 1 1 1 1 1 1 1
    1 1 1 1 1 1 1 1 1 1 1 1 1 1 1 1 1 1 1 1 1 1 1 1 7 2 1 2 2 1 1 4 1 1 1 1 1 1 1 1 97 9
    31 6 2 5 95 2 9 1 32 1 1 1 3 1 1 3 4 8 1 8 1 27 35 8 1 1 1 1 1 1 1 1 1 1 1 1 1 1 1 1 1
    1 1 1 1 1 1 1 1 3 1 2 1 1 1 2 2 51 48 1 1 1 1 1 1 1 1 1 1 1 1 1 1 1 1 1 1 1 1 1 1 1 1
    1 1 1 1 1 1 1 1 1 9 1 1 1 1 1 1 1 1 1 1 1 1 1 1 1 1 1 1 1 1 1 1 1 1 1 1 1 1 1 1 1 1 1
    1 1 1 1 1 1 1 1 1 1 1 1 1 1 1 1 1 1 1 1 1 2 1 1 1 1 1 1 1 1 1 1 1 1 2 1 1 1 1 1 1 1 1
    1 1 1 1 1 1 1 1 1 1 1 1 1 1 1 1 1 1 1 1 1 1 1 1 1 1 1 1 1 1 1 1 1 1 1 1 1 1 1 1 1 1 1
    1 1 1 1 1 1 1 1 1 1 1 1 1 1 1 1 1 1 1 1 1 1 1 1 1 1 1 1 1 1 1 1 1 1 1 1 1 1 1 1 1 1 1
    1 1 41 46 1 3 2 3 1 55 8 27 4 6 17 22 1 88 4 100 1 48 2 59 2 101 14 59 2 49 2 15 1 28
    2 1 1 11 5 31 8 75 1 117 8 36 1 8 2 2 2 22 1 7 1 1 3 4 2 9 2 2 2 4 8 1 8 4 2 25 2 3 1
    6 4 2 2 22 1 7 1 1 2 1 2 2 2 1 1 5 4 2 2 3 3 1 10 1 9 17 10 3 1 9 1 3 1 22 1 7 1 2 1 5
    2 10 1 3 1 3 2 1 15 4 2 12 7 7 1 3 1 8 2 2 2 22 1 7 1 2 1 5 2 9 2 2 2 3 7 3 7 5 2 18
    10 2 1 6 3 3 1 4 3 2 1 1 1 2 3 2 3 3 3 12 4 5 3 3 1 4 2 1 6 1 14 21 5 13 1 3 1 23 1 16
    2 9 1 3 1 4 7 2 1 3 2 1 2 4 2 10 7 22 1 3 1 23 1 10 1 5 2 9 1 3 1 4 7 2 6 2 1 4 2 10 1
    3 12 13 1 3 1 51 1 3 1 6 4 16 2 26 1 3 1 18 3 24 1 9 1 1 2 7 3 1 4 6 1 1 1 8 6 10 2 3
    12 50 1 7 4 29 37 2 1 1 1 5 1 24 1 1 1 12 1 10 2 5 1 1 1 7 1 10 4 2 32 12 1 54 1 4 1 4
    1 4 1 4 1 4 1 12 1 3 4 2 1 1 5 7 1 17 1 4 1 4 1 4 1 4 1 4 1 12 1 3 1 15 1 13 37 160 48
    44 1 98 2 232 1 4 2 7 1 1 1 4 2 41 1 4 2 33 1 4 2 7 1 1 1 4 2 15 1 57 1 4 2 67 2 32 3
    26 6 86 10 640 1 28 3 89 7 22 9 24 9 20 12 13 1 3 1 2 12 52 2 40 2 10 6 10 6 11 5 10 6
    89 7 43 5 70 10 31 1 12 4 12 4 1 3 42 2 5 11 44 4 26 6 11 3 62 2 65 1 29 2 11 6 10 6
    14 2 31 49 77 1 166 8 60 3 15 3 51 10 1 53 8 8 43 5 44 3 1 11 1 18 1 28 13 1 34 37 64
    1 1 1 1 1 1 1 1 1 1 1 1 1 1 1 1 1 1 1 1 1 1 1 1 1 1 1 1 1 1 1 1 1 1 1 1 1 1 1 1 1 1 1
    1 1 1 1 1 1 1 1 1 1 1 1 1 1 1 1 1 1 1 1 1 1 1 1 1 1 1 1 1 1 1 1 1 1 1 1 1 1 1 1 1 1 1
    1 1 1 1 1 1 1 1 1 1 1 1 1 1 1 1 1 1 1 1 1 1 1 1 1 1 1 1 1 1 1 1 1 1 1 1 1 1 1 1 1 1 1
    1 1 1 1 1 1 1 1 1 1 1 1 1 1 1 1 1 1 1 1 5 2 2 1 1 1 1 1 1 1 1 1 1 1 1 1 1 1 1 1 1 1 1
    1 1 1 1 1 1 1 1 1 1 1 1 1 1 1 1 1 1 1 1 1 1 1 1 1 1 1 1 1 1 1 1 1 1 1 1 1 1 1 1 1 1 1
    1 1 1 1 1 1 1 1 1 1 1 1 1 1 1 1 1 1 1 1 1 1 1 1 1 1 1 1 1 1 1 1 1 1 9 8 6 10 8 8 8 8 6
    10 8 8 8 8 1 1 1 1 1 1 1 1 1 1 1 1 1 51 2 4 1 7 1 7 1 9 3 3 2 8 3 1 4 7 1 6 1 21 2 2 1
    1 5 1 12 3 1 8 3 2 1 2 4 1 1 1 8 3 13 1 7 65 8 1 24 15 33 19 1 3 1 11 1 2 2 5 2 3 1 1
    1 1 1 1 1 4 1 11 1 6 4 5 6 48 3 1 5 1 2 4 156 2 1 2 505 22 11 160 1313 1 103 3 101 1
    151 2 32 1 105 48 48 1 1 3 2 1 1 1 1 1 1 4 1 1 2 1 6 5 1 1 1 1 1 1 1 1 1 1 1 1 1 1 1 1
    1 1 1 1 1 1 1 1 1 1 1 1 1 1 1 1 1 1 1 1 1 1 1 1 1 1 1 1 1 1 1 1 1 1 1 1 1 1 1 1 1 1 1
    1 1 1 1 1 1 1 1 1 1 1 1 1 1 1 1 1 1 1 1 1 1 1 1 1 1 1 1 1 1 1 1 1 1 1 1 1 1 1 8 1 1 1
    4 1 1 5 45 1 1 5 1 2 56 8 1 14 24 9 7 1 7 1 7 1 7 1 7 1 7 1 7 1 7 1 126 34 26 1 4 1 83
    270 1 1 51 1 1 3 5 1 86 2 2 2 2 1 95 6 43 96 2 14 70 10 16 72 8 47 1 384 28813 3 55 9
    348 21 1 1 1 1 1 1 1 1 1 1 1 1 1 1 1 1 1 1 1 1 1 1 1 1 1 1 1 1 1 1 1 1 1 1 1 1 1 1 1 1
    1 1 1 1 19 1 1 1 1 1 1 1 1 1 1 1 1 1 1 1 1 1 1 1 1 1 1 1 1 1 1 1 1 2 90 8 34 1 1 1 1 1
    1 1 1 1 1 1 1 1 3 1 1 1 1 1 1 1 1 1 1 1 1 1 1 1 1 1 1 1 1 1 1 1 1 1 1 1 1 1 1 1 1 1 1
    1 1 1 1 1 1 1 1 1 1 1 1 1 1 1 1 1 1 1 1 1 1 1 1 1 1 1 1 1 8 1 1 1 1 2 1 1 1 1 1 1 1 1
    4 1 1 1 2 1 1 1 3 1 1 1 1 1 1 1 1 1 1 1 1 1 1 1 1 1 1 1 1 5 1 5 1 1 1 1 1 1 1 1 1 1 1
    1 1 1 1 4 1 1 1 2 1 3 1 1 1 1 1 1 1 1 1 1 1 26 2 2 51 3 10 6 56 8 70 8 12 6 116 11 30
    3 78 1 11 4 33 1 55 9 14 2 10 2 103 24 28 10 6 2 6 2 6 9 7 1 7 1 44 4 9 1 2 84 46 2 10
    6 11172 12 23 4 49 8452 366 2 106 68 1 147 17 379 18 127 1 45 3 32 16 21 2 44 1 396 12
    1 26 1 19 1 2 1 15 2 14 34 123 5 3 4 45 3 88 1 13 3 1 47 46 130 29 3 49 15 28 4 36 9
    30 5 43 5 30 1 37 4 14 82 118 2 10 46 36 4 40 8 52 11 1 39 11 1 15 1 7 1 2 3 52 12 311
    9 22 10 8 24 1 127 6 2 1 1 44 1 2 3 1 2 23 1 72 8 9 48 19 1 2 5 33 3 27 5 1 64 56 4 20
    2 50 1 2 5 8 1 3 1 29 2 3 4 10 7 9 7 64 32 39 4 12 9 54 3 29 2 27 5 26 7 4 12 7 80 73
    119 51 7 46 8 10 6 16 25 29 8 2 208 31 1 42 1 3 2 2 16 3 55 44 8 42 22 26 38 28 20 23
    9 78 4 36 9 62 1 5 13 25 7 10 6 53 1 18 8 39 9 96 1 20 11 18 1 47 62 7 1 1 1 4 1 15 1
    11 6 59 5 10 6 4 1 8 2 2 2 22 1 7 1 2 1 5 1 10 2 2 2 3 2 1 6 1 5 7 2 7 3 5 11 10 1 1 2
    1 1 38 1 10 1 1 2 1 1 4 1 10 1 2 8 2 29 92 1 5 30 72 8 10 166 54 2 38 34 69 11 10 6 13
    19 58 6 10 6 20 28 27 2 15 4 23 185 60 132 51 12 8 2 1 2 8 1 2 1 30 1 2 2 12 9 10 70 8
    2 46 2 11 27 72 8 83 13 73 7 10 182 34 14 10 6 9 1 45 1 14 10 29 3 32 2 22 1 14 73 7 1
    2 1 44 3 1 1 2 1 9 8 10 6 6 1 2 1 37 1 2 1 6 7 10 310 25 7 17 1 41 3 29 85 1 15 50 13
    923 102 111 1 5 11 196 2636 99 13 1072 16 22 10 3995 5 583 6841 58 1734 569 7 31 1 10
    4 81 1 10 6 30 2 6 10 70 10 10 1 7 1 21 5 19 432 58 230 59 101 75 4 57 7 17 64 5 11 2
    14 6136 8 1238 41 10 8935 4 1 7 1 2 1 291 15 1 29 3 2 1 14 4 8 396 2308 107 5 13 3 9 7
    10 2 4 3936 214 42 436 76 46 2 23 9 116 60 246 10 39 2 53 7 14 8 64 6 42 21 70 122 20
    12 20 12 87 9 25 1159 652 15 5 1 15 1104 31 6 6 213 7 1 17 2 7 1 2 1 5 100 1 112 45 3
    14 2 10 4 2 320 31 17 58 5 1 464 42 214 43 4 1 480 7 1 4 1 2 1 15 1 197 2 16 75 42 4
    10 4 2 785 68 76 61 434 2 270 44 4 100 12 15 2 15 1 15 1 37 21 5 31 1 32 26 3 35 1 29
    56 26 96 6 154 984 4 17 3 13 3 119 4 95 6 12 4 1 15 12 4 56 8 10 6 40 8 30 2 12 4 2 62
    340 12 14 2 13 3 10 5 56 7 15 2 11 6 9 7 147 1 92 1040 42720 32 4154 6 222 2 5762 14
    7473 15 622 2466 542 1506 4939 5 4192"

/-- The characters that vanish, as a row of gaps and lengths. -/
def ignoredRow : String :=
    "173 1 673 1 3599 2 1619 2 85 5 2043 1 84 5 5 6 4340 1 52379 16 239 1 160 1 48383 4
    5327 8 798597 240"

/-- Links from a character to the one that it is mapped to.  Distances may be negative, so they
are counted from 200000. -/
def linkRow : String :=
    "65 200032 26 1 160 199872 1 1 170 199927 1 1 178 199872 2 1 181 200775 1 1 185 199864
    1 1 186 199925 1 1 192 200032 23 1 216 200032 7 1 256 200001 24 2 308 200001 2 2 313
    200001 3 2 321 200001 4 2 330 200001 23 2 376 199879 1 1 377 200001 3 2 383 199732 1 1
    385 200210 1 1 386 200001 2 2 390 200206 1 1 391 200001 1 1 393 200205 2 1 395 200001
    1 1 398 200079 1 1 399 200202 1 1 400 200203 1 1 401 200001 1 1 403 200205 1 1 404
    200207 1 1 406 200211 1 1 407 200209 1 1 408 200001 1 1 412 200211 1 1 413 200213 1 1
    415 200214 1 1 416 200001 3 2 422 200218 1 1 423 200001 1 1 425 200218 1 1 428 200001
    1 1 430 200218 1 1 431 200001 1 1 433 200217 2 1 435 200001 2 2 439 200219 1 1 440
    200001 1 1 444 200001 1 1 461 200001 8 2 478 200001 9 2 500 200001 1 1 502 199903 1 1
    503 199944 1 1 504 200001 20 2 544 199870 1 1 546 200001 9 2 570 210795 1 1 571 200001
    1 1 573 199837 1 1 574 210792 1 1 577 200001 1 1 579 199805 1 1 580 200069 1 1 581
    200071 1 1 582 200001 5 2 688 199416 2 2 689 199925 1 1 691 199423 1 1 692 199941 1 1
    693 199942 1 1 694 199947 1 1 695 199424 1 1 696 199425 1 1 736 199875 1 1 737 199371
    1 1 738 199377 1 1 739 199381 1 1 740 199921 1 1 837 200116 1 1 880 200001 2 2 886
    200001 1 1 895 200116 1 1 902 200038 1 1 904 200037 3 1 908 200064 1 1 910 200063 2 1
    913 200032 17 1 931 200032 9 1 975 200008 1 1 976 199970 1 1 977 199975 1 1 978 199987
    1 1 979 199994 1 1 980 199991 1 1 981 199985 1 1 982 199978 1 1 984 200001 12 2 1008
    199946 1 1 1009 199952 1 1 1010 199953 1 1 1012 199940 1 1 1013 199936 1 1 1015 200001
    1 1 1017 199946 1 1 1018 200001 1 1 1021 199870 3 1 1024 200080 16 1 1040 200032 32 1
    1120 200001 17 2 1162 200001 27 2 1216 200015 1 1 1217 200001 7 2 1232 200001 48 2
    1329 200048 38 1 3852 199999 1 1 4256 207264 38 1 4295 207264 1 1 4301 207264 1 1 4348
    199968 1 1 5112 199992 6 1 7296 193778 1 1 7297 193779 1 1 7298 193788 1 1 7299 193790
    2 1 7301 193789 1 1 7302 193796 1 1 7303 193820 1 1 7304 235267 1 1 7305 200001 1 1
    7312 196992 43 1 7357 196992 3 1 7468 192629 1 1 7469 192761 1 1 7470 192628 2 2 7473
    192628 5 2 7474 193003 1 1 7476 192628 4 2 7484 192627 1 1 7485 193062 1 1 7486 192626
    1 1 7487 192627 1 1 7488 192628 2 1 7490 192629 1 1 7491 192606 1 1 7492 193100 2 1
    7494 199932 1 1 7495 192603 1 1 7496 192604 2 1 7498 193103 1 1 7499 193104 2 1 7501
    192602 1 1 7503 192604 1 1 7504 192605 2 2 7505 192826 1 1 7507 193089 1 1 7508 199938
    2 1 7510 192602 1 1 7511 192605 2 1 7513 199940 1 1 7514 193109 1 1 7515 192603 1 1
    7516 199945 1 1 7517 193429 3 1 7520 193446 2 1 7522 192583 1 1 7523 192591 1 1 7524
    192593 2 1 7526 193420 2 1 7528 193433 1 1 7529 193437 2 1 7544 193541 1 1 7579 193015
    1 1 7580 192519 1 1 7581 193016 1 1 7582 192658 1 1 7583 193021 1 1 7584 192518 1 1
    7585 193022 1 1 7586 193023 1 1 7587 193026 1 1 7588 193028 3 1 7591 199956 1 1 7592
    193077 1 1 7593 193028 1 1 7594 199963 1 1 7595 193076 1 1 7596 193029 1 1 7597 193027
    1 1 7598 193028 4 1 7602 193030 1 1 7603 193039 2 1 7605 192822 1 1 7606 193043 2 1
    7608 199844 1 1 7609 193042 2 1 7611 192511 1 1 7612 193044 3 1 7615 193337 1 1 7680
    200001 75 2 7835 199942 1 1 7838 192385 1 1 7840 200001 48 2 7944 199992 8 1 7960
    199992 6 1 7976 199992 8 1 7992 199992 8 1 8008 199992 6 1 8025 199992 4 2 8040 199992
    8 1 8049 192891 1 1 8051 192890 1 1 8053 192889 1 1 8055 192888 1 1 8057 192915 1 1
    8059 192914 1 1 8061 192913 1 1 8120 199992 2 1 8122 199926 1 1 8123 192817 1 1 8136
    199914 2 2 8137 192804 1 1 8139 192803 1 1 8147 192765 1 1 8152 199992 2 1 8154 199900
    1 1 8155 192788 1 1 8163 192781 1 1 8168 199992 2 1 8170 199888 1 1 8171 192802 1 1
    8172 199993 1 1 8184 199872 1 1 8185 192787 2 2 8186 199874 1 1 8192 191840 1 1 8193
    191839 1 1 8194 191838 1 1 8195 191837 1 1 8196 191836 1 1 8197 191835 1 1 8198 191834
    1 1 8199 191833 1 1 8200 191832 1 1 8201 191831 1 1 8202 191830 1 1 8209 199999 1 1
    8239 191793 1 1 8287 191745 1 1 8304 191744 1 1 8305 191800 1 1 8308 191744 6 1 8314
    191729 1 1 8315 200407 1 1 8316 191745 1 1 8317 191723 2 1 8319 191791 1 1 8320 191728
    10 1 8330 191713 1 1 8331 200391 1 1 8332 191729 1 1 8333 191707 2 1 8336 191761 1 1
    8337 191764 1 1 8338 191773 1 1 8339 191781 1 1 8340 192261 1 1 8341 191763 1 1 8342
    191765 4 1 8346 191766 1 1 8347 191768 2 1 8450 191649 1 1 8455 192148 1 1 8458 191645
    2 1 8460 191644 1 1 8461 191643 1 1 8462 191642 1 1 8463 191832 1 1 8464 191641 1 1
    8465 191640 1 1 8466 191642 1 1 8467 191641 2 2 8473 191639 3 1 8476 191638 1 1 8477
    191637 1 1 8484 191638 1 1 8486 192483 1 1 8488 191634 1 1 8490 191617 1 1 8491 191738
    1 1 8492 191606 2 1 8495 191606 1 1 8496 191605 2 1 8498 200028 1 1 8499 191610 1 1
    8500 191611 1 1 8501 192987 4 1 8505 191600 1 1 8508 192452 1 1 8509 192438 1 1 8510
    192437 1 1 8511 192449 1 1 8512 200209 1 1 8517 191583 1 1 8518 191582 2 1 8520 191585
    2 1 8544 191561 1 1 8548 191570 1 1 8553 191567 1 1 8556 191552 1 1 8557 191542 2 1
    8559 191550 1 1 8560 191545 1 1 8564 191554 1 1 8569 191551 1 1 8572 191536 1 1 8573
    191526 2 1 8575 191534 1 1 8579 200001 1 1 9312 190737 9 1 9398 190699 26 1 9424
    190673 26 1 9450 190598 1 1 11264 200048 48 1 11360 200001 1 1 11362 189257 1 1 11363
    196186 1 1 11364 189273 1 1 11367 200001 3 2 11373 189220 1 1 11374 189251 1 1 11375
    189217 1 1 11376 189218 1 1 11378 200001 1 1 11381 200001 1 1 11388 188718 1 1 11389
    188729 1 1 11390 189185 2 1 11392 200001 50 2 11499 200001 2 2 11506 200001 1 1 11631
    199986 1 1 11935 215662 1 1 12019 228844 1 1 12032 207936 1 1 12033 207975 1 1 12034
    207988 1 1 12035 207996 1 1 12036 208021 1 1 12037 208064 1 1 12038 208070 1 1 12039
    208089 1 1 12040 208114 1 1 12041 208758 1 1 12042 208795 1 1 12043 208800 1 1 12044
    208822 1 1 12045 208841 1 1 12046 208861 1 1 12047 208913 1 1 12048 208933 1 1 12049
    208943 1 1 12050 209097 1 1 12051 209190 1 1 12052 209217 1 1 12053 209221 1 1 12054
    209250 1 1 12055 209258 1 1 12056 209284 1 1 12057 209296 1 1 12058 209320 1 1 12059
    209371 1 1 12060 209388 1 1 12061 209414 1 1 12062 210169 1 1 12063 210240 1 1 12064
    210699 1 1 12065 210721 1 1 12066 210728 1 1 12067 210738 1 1 12068 210755 1 1 12069
    210830 1 1 12070 211306 1 1 12071 211353 1 1 12072 211472 1 1 12073 211494 1 1 12074
    211512 1 1 12075 211533 1 1 12076 211586 1 1 12077 211588 1 1 12078 211949 1 1 12079
    211958 1 1 12080 211969 1 1 12081 211981 1 1 12082 212096 1 1 12083 212103 1 1 12084
    212107 1 1 12085 212223 1 1 12086 212232 1 1 12087 212244 1 1 12088 212251 1 1 12089
    212311 1 1 12090 212327 1 1 12091 212344 1 1 12092 212423 1 1 12093 213003 1 1 12094
    213048 1 1 12095 213068 1 1 12096 213807 1 1 12097 213811 1 1 12098 213893 1 1 12099
    213908 1 1 12100 213920 1 1 12101 213940 1 1 12102 213978 1 1 12103 213982 1 1 12104
    214248 1 1 12105 214271 1 1 12106 214302 1 1 12107 215317 1 1 12108 215382 1 1 12109
    215404 1 1 12110 215461 1 1 12111 215484 1 1 12112 215492 1 1 12113 215498 1 1 12114
    215549 1 1 12115 215553 1 1 12116 215584 1 1 12117 216662 1 1 12118 217108 1 1 12119
    217119 1 1 12120 217123 1 1 12121 217126 1 1 12122 217133 1 1 12123 217150 1 1 12124
    217151 1 1 12125 217231 1 1 12126 217446 1 1 12127 217450 1 1 12128 217788 1 1 12129
    217797 1 1 12130 217846 1 1 12131 217852 1 1 12132 217860 1 1 12133 217867 1 1 12134
    217957 1 1 12135 217963 1 1 12136 218190 1 1 12137 218196 1 1 12138 218244 1 1 12139
    218260 1 1 12140 218306 1 1 12141 218542 1 1 12142 218548 1 1 12143 218564 1 1 12144
    218890 1 1 12145 219015 1 1 12146 219020 1 1 12147 219201 1 1 12148 219287 1 1 12149
    219332 1 1 12150 219709 1 1 12151 219841 1 1 12152 220414 1 1 12153 220440 1 1 12154
    220496 1 1 12155 220546 1 1 12156 220613 1 1 12157 220623 1 1 12158 220628 1 1 12159
    220660 1 1 12160 220735 1 1 12161 220744 1 1 12162 221089 1 1 12163 221095 1 1 12164
    221103 1 1 12165 221111 1 1 12166 221126 1 1 12167 221140 1 1 12168 221143 1 1 12169
    221221 1 1 12170 221224 1 1 12171 221229 1 1 12172 222209 1 1 12173 222238 1 1 12174
    222706 1 1 12175 222717 1 1 12176 222739 1 1 12177 223021 1 1 12178 223033 1 1 12179
    223103 1 1 12180 223148 1 1 12181 223714 1 1 12182 223728 1 1 12183 223742 1 1 12184
    223776 1 1 12185 223812 1 1 12186 224010 1 1 12187 224021 1 1 12188 224087 1 1 12189
    224334 1 1 12190 224364 1 1 12191 224572 1 1 12192 224592 1 1 12193 224596 1 1 12194
    224815 1 1 12195 224998 1 1 12196 225122 1 1 12197 225127 1 1 12198 225131 1 1 12199
    226064 1 1 12200 226072 1 1 12201 226227 1 1 12202 226380 1 1 12203 226382 1 1 12204
    226428 1 1 12205 226532 1 1 12206 226544 1 1 12207 226547 1 1 12208 226553 1 1 12209
    226650 1 1 12210 226683 1 1 12211 226688 1 1 12212 226701 1 1 12213 226867 1 1 12214
    226917 1 1 12215 226920 1 1 12216 227102 1 1 12217 227104 1 1 12218 227122 1 1 12219
    227373 1 1 12220 227420 1 1 12221 227426 1 1 12222 227495 1 1 12223 227504 1 1 12224
    227506 1 1 12225 227515 1 1 12226 227544 1 1 12227 227938 1 1 12228 228337 1 1 12229
    228346 1 1 12230 228383 1 1 12231 228404 1 1 12232 228411 1 1 12233 228420 1 1 12234
    228423 1 1 12235 228462 1 1 12236 228465 1 1 12237 228481 1 1 12238 228485 1 1 12239
    228497 1 1 12240 228523 1 1 12241 228537 1 1 12242 228544 1 1 12243 228602 1 1 12244
    228616 1 1 12245 228619 1 1 12288 187744 1 1 12290 187756 1 1 12342 199964 1 1 12344
    208969 1 1 12345 208971 2 1 12593 191759 2 1 12595 191927 2 2 12596 191758 1 1 12598
    191927 1 1 12599 191756 3 1 12602 191926 6 1 12608 191770 1 1 12609 191749 3 1 12612
    191773 1 1 12613 191748 10 1 12623 191826 21 1 12645 191727 2 1 12647 191904 2 1 12649
    191907 1 1 12650 191908 1 1 12651 191912 1 1 12652 191915 1 1 12653 191916 1 1 12654
    191726 1 1 12655 191918 1 1 12656 191919 1 1 12657 191724 2 1 12659 191725 1 1 12660
    191726 2 1 12662 191729 1 1 12663 191730 1 1 12664 191731 5 1 12669 191733 1 1 12670
    191736 1 1 12671 191745 1 1 12672 191751 1 1 12673 191755 1 1 12674 191919 2 1 12676
    191763 3 1 12679 191805 2 1 12681 191807 1 1 12682 191815 2 1 12684 191816 1 1 12685
    191825 1 1 12686 191827 1 1 12690 207278 1 1 12691 207417 1 1 12692 207285 1 1 12693
    209542 1 1 12694 207284 1 1 12695 207318 1 1 12696 207283 1 1 12697 217305 1 1 12698
    207359 1 1 12699 207294 1 1 12700 207269 1 1 12701 210124 1 1 12702 209618 1 1 12703
    207451 1 1 12868 208971 1 1 12869 211319 1 1 12870 213121 1 1 12871 218760 1 1 12896
    191456 1 1 12897 191457 2 1 12899 191458 3 1 12902 191459 1 1 12903 191460 2 1 12905
    191461 5 1 12910 231122 1 1 12911 232297 1 1 12912 232884 1 1 12913 234059 1 1 12914
    234646 1 1 12915 235233 1 1 12916 236408 1 1 12917 237583 1 1 12918 238170 1 1 12919
    239345 1 1 12920 239932 1 1 12921 240519 1 1 12922 241106 1 1 12923 241693 1 1 12926
    237938 1 1 12928 207040 1 1 12929 207179 1 1 12930 207047 1 1 12931 209304 1 1 12932
    207184 1 1 12933 207912 1 1 12934 207037 1 1 12935 207908 1 1 12936 207125 1 1 12937
    208376 1 1 12938 213438 1 1 12939 215840 1 1 12940 214760 1 1 12941 213467 1 1 12942
    224387 1 1 12943 209360 1 1 12944 213141 1 1 12945 213721 1 1 12946 213431 1 1 12947
    218091 1 1 12948 208569 1 1 12949 216356 1 1 12950 223051 1 1 12951 218118 1 1 12952
    208220 1 1 12953 218239 1 1 12954 217053 1 1 12955 209944 1 1 12956 224013 1 1 12957
    207821 1 1 12958 208402 1 1 12959 214921 1 1 12960 225957 1 1 12961 207280 1 1 12962
    207927 1 1 12963 214528 1 1 12964 207014 1 1 12965 207048 1 1 12966 207013 1 1 12967
    211071 1 1 12968 208523 1 1 12969 208338 1 1 12970 210477 1 1 12971 210427 1 1 12972
    217463 1 1 12973 207252 1 1 12974 223065 1 1 12975 208357 1 1 12976 209836 1 1 13008
    199442 1 1 13009 199443 1 1 13010 199444 1 1 13011 199445 1 1 13012 199446 2 1 13014
    199447 1 1 13015 199448 1 1 13016 199449 1 1 13017 199450 1 1 13018 199451 1 1 13019
    199452 1 1 13020 199453 1 1 13021 199454 1 1 13022 199455 1 1 13023 199456 1 1 13024
    199457 1 1 13025 199459 1 1 13026 199460 1 1 13027 199461 1 1 13028 199462 6 1 13034
    199464 1 1 13035 199466 1 1 13036 199468 1 1 13037 199470 1 1 13038 199472 5 1 13043
    199473 1 1 13044 199474 1 1 13045 199475 6 1 13051 199476 4 1 42560 200001 23 2 42624
    200001 14 2 42652 158446 1 1 42653 158447 1 1 42786 200001 7 2 42802 200001 31 2 42864
    199999 1 1 42873 200001 2 2 42877 164668 1 1 42878 200001 5 2 42891 200001 1 1 42893
    157720 1 1 42896 200001 2 2 42902 200001 10 2 42922 157692 1 1 42923 157681 1 1 42924
    157685 1 1 42925 157695 1 1 42926 157692 1 1 42928 157742 1 1 42929 157718 1 1 42930
    157739 1 1 42931 200928 1 1 42932 200001 8 2 42948 199952 1 1 42949 157693 1 1 42950
    164616 1 1 42951 200001 2 2 42955 157657 1 1 42956 200001 1 1 42960 200001 1 1 42966
    200001 3 2 42972 157439 1 1 42994 157105 1 1 42995 157107 1 1 42996 157117 1 1 42997
    200001 1 1 43000 157295 1 1 43001 157338 1 1 43868 198923 1 1 43869 199962 1 1 43870
    156749 1 1 43871 199987 1 1 43881 156772 1 1 43888 161136 80 1 64288 137218 1 1 64289
    137199 1 1 64290 137201 2 1 64292 137207 3 1 64295 137217 1 1 64296 137218 1 1 64297
    135746 1 1 64336 137313 1 1 64337 137312 1 1 64338 137321 1 1 64339 137320 1 1 64340
    137319 1 1 64341 137318 1 1 64342 137320 1 1 64343 137319 1 1 64344 137318 2 2 64345
    137317 2 2 64348 137316 1 1 64349 137315 1 1 64350 137308 1 1 64351 137307 1 1 64352
    137306 1 1 64353 137305 1 1 64354 137309 1 1 64355 137308 1 1 64356 137307 1 1 64357
    137306 1 1 64358 137299 1 1 64359 137298 1 1 64360 137297 1 1 64361 137296 1 1 64362
    137338 1 1 64363 137337 1 1 64364 137336 2 2 64365 137335 2 2 64368 137334 1 1 64369
    137333 1 1 64370 137298 1 1 64371 137297 1 1 64372 137296 1 1 64373 137295 1 1 64374
    137293 1 1 64375 137292 1 1 64376 137291 1 1 64377 137290 1 1 64378 137292 1 1 64379
    137291 1 1 64380 137290 1 1 64381 137289 2 1 64383 137288 1 1 64384 137287 1 1 64385
    137286 1 1 64386 137291 1 1 64387 137290 1 1 64388 137288 2 2 64389 137287 2 2 64392
    137280 1 1 64393 137279 1 1 64394 137294 1 1 64395 137293 1 1 64396 137285 1 1 64397
    137284 1 1 64398 137307 1 1 64399 137306 1 1 64400 137305 1 1 64401 137304 1 1 64402
    137309 1 1 64403 137308 1 1 64404 137307 1 1 64405 137306 1 1 64406 137309 1 1 64407
    137308 1 1 64408 137307 1 1 64409 137306 1 1 64410 137303 1 1 64411 137302 1 1 64412
    137301 1 1 64413 137300 1 1 64414 137308 1 1 64415 137307 2 1 64417 137306 1 1 64418
    137305 1 1 64419 137304 1 1 64420 137308 1 1 64421 137307 2 1 64423 137306 1 1 64424
    137305 1 1 64425 137304 1 1 64426 137300 1 1 64427 137299 1 1 64428 137298 1 1 64429
    137297 1 1 64430 137316 1 1 64431 137315 2 1 64433 137314 1 1 64467 137242 1 1 64468
    137241 1 1 64469 137240 1 1 64470 137239 1 1 64471 137264 1 1 64472 137263 1 1 64473
    137261 2 2 64474 137260 2 2 64478 137261 1 1 64479 137260 1 1 64480 137253 1 1 64481
    137252 1 1 64482 137255 1 1 64483 137254 1 1 64484 137260 1 1 64485 137259 1 1 64486
    137258 1 1 64487 137257 1 1 64488 137121 1 1 64489 137120 1 1 64508 137232 1 1 64509
    137231 1 1 64510 137230 1 1 64511 137229 1 1 65040 135004 1 1 65041 147248 1 1 65043
    135015 2 1 65045 134988 1 1 65046 135017 1 1 65047 147263 2 1 65073 143139 1 1 65074
    143137 1 1 65075 135020 1 1 65076 135019 1 1 65077 134963 2 1 65079 135044 1 1 65080
    135045 1 1 65081 147227 2 1 65083 147221 2 1 65085 147213 2 1 65087 147209 2 1 65089
    147211 4 1 65095 134996 1 1 65096 134997 1 1 65101 134994 1 1 65102 134993 1 1 65103
    134992 1 1 65104 134940 1 1 65105 147184 1 1 65108 134951 1 1 65109 134949 1 1 65110
    134953 1 1 65111 134922 1 1 65112 143100 1 1 65113 134927 2 1 65115 135008 1 1 65116
    135009 1 1 65117 147191 2 1 65119 134916 1 1 65120 134918 1 1 65121 134921 2 1 65123
    134922 1 1 65124 134936 1 1 65125 134937 1 1 65126 134935 1 1 65128 134964 1 1 65129
    134907 2 1 65131 134933 1 1 65152 136417 2 1 65154 136416 2 1 65156 136415 2 1 65158
    136414 2 1 65160 136413 2 1 65162 136412 1 1 65163 136411 1 1 65164 136410 2 1 65166
    136409 2 1 65168 136408 1 1 65169 136407 1 1 65170 136406 2 1 65172 136405 2 1 65174
    136404 1 1 65175 136403 1 1 65176 136402 2 1 65178 136401 1 1 65179 136400 1 1 65180
    136399 2 1 65182 136398 1 1 65183 136397 1 1 65184 136396 2 1 65186 136395 1 1 65187
    136394 1 1 65188 136393 2 1 65190 136392 1 1 65191 136391 1 1 65192 136390 2 1 65194
    136389 2 1 65196 136388 2 1 65198 136387 2 1 65200 136386 2 1 65202 136385 1 1 65203
    136384 1 1 65204 136383 2 1 65206 136382 1 1 65207 136381 1 1 65208 136380 2 1 65210
    136379 1 1 65211 136378 1 1 65212 136377 2 1 65214 136376 1 1 65215 136375 1 1 65216
    136374 2 1 65218 136373 1 1 65219 136372 1 1 65220 136371 2 1 65222 136370 1 1 65223
    136369 1 1 65224 136368 2 1 65226 136367 1 1 65227 136366 1 1 65228 136365 2 1 65230
    136364 1 1 65231 136363 1 1 65232 136362 1 1 65233 136368 1 1 65234 136367 1 1 65235
    136366 1 1 65236 136365 2 1 65238 136364 1 1 65239 136363 1 1 65240 136362 2 1 65242
    136361 1 1 65243 136360 1 1 65244 136359 2 1 65246 136358 1 1 65247 136357 1 1 65248
    136356 2 1 65250 136355 1 1 65251 136354 1 1 65252 136353 2 1 65254 136352 1 1 65255
    136351 1 1 65256 136350 2 1 65258 136349 1 1 65259 136348 1 1 65260 136347 2 1 65262
    136346 2 1 65264 136345 2 1 65266 136344 1 1 65267 136343 1 1 65268 136342 1 1 65281
    134752 32 1 65313 134784 26 1 65339 134752 36 1 65375 145254 2 1 65377 134669 1 1
    65378 146922 2 1 65380 146909 1 1 65381 147158 1 1 65382 147148 1 1 65383 147066 1 1
    65384 147067 1 1 65385 147068 1 1 65386 147069 1 1 65387 147070 1 1 65388 147127 1 1
    65389 147128 1 1 65390 147129 1 1 65391 147092 1 1 65392 147148 1 1 65393 147057 1 1
    65394 147058 1 1 65395 147059 1 1 65396 147060 1 1 65397 147061 2 1 65399 147062 1 1
    65400 147063 1 1 65401 147064 1 1 65402 147065 1 1 65403 147066 1 1 65404 147067 1 1
    65405 147068 1 1 65406 147069 1 1 65407 147070 1 1 65408 147071 1 1 65409 147072 1 1
    65410 147074 1 1 65411 147075 1 1 65412 147076 1 1 65413 147077 6 1 65419 147079 1 1
    65420 147081 1 1 65421 147083 1 1 65422 147085 1 1 65423 147087 5 1 65428 147088 1 1
    65429 147089 1 1 65430 147090 6 1 65436 147091 1 1 65437 147094 1 1 65438 147003 2 1
    65441 138911 2 1 65443 139079 2 2 65444 138910 1 1 65446 139079 1 1 65447 138908 3 1
    65450 139078 6 1 65456 138922 1 1 65457 138901 3 1 65460 138925 1 1 65461 138900 10 1
    65474 138975 6 1 65482 138973 6 1 65490 138971 6 1 65498 138969 3 1 65504 134658 2 1
    65506 134666 1 1 65508 134658 1 1 65509 134656 1 1 65510 142851 1 1 65512 143962 1 1
    65513 143079 4 1 65517 144115 1 1 65518 144157 1 1 66560 200040 40 1 66736 200040 36 1
    66928 200039 19 2 66929 200039 5 2 66941 200039 7 2 66957 200039 3 2 66965 200039 1 1
    67457 133263 2 1 67459 132771 1 1 67460 133205 1 1 67461 133134 1 1 67463 133212 2 2
    67464 176414 1 1 67466 133210 1 1 67467 133131 2 1 67469 140100 1 1 67470 133130 1 1
    67471 133135 1 1 67472 133209 1 1 67473 133139 1 1 67474 133136 1 1 67475 133133 1 1
    67476 133191 1 1 67477 132818 1 1 67478 133190 1 1 67479 133136 1 1 67480 133164 1 1
    67481 133201 2 1 67483 133137 1 1 67484 255144 1 1 67485 175409 1 1 67486 133136 1 1
    67487 255142 1 1 67488 133166 1 1 67489 255141 1 1 67490 132758 1 1 67491 133139 2 1
    67493 132620 1 1 67494 133140 1 1 67495 255137 1 1 67496 133141 2 1 67498 133142 1 1
    67499 133181 1 1 67500 133178 1 1 67501 176378 1 1 67502 133177 1 1 67503 133145 1 1
    67504 143873 1 1 67506 133149 1 1 67507 133166 2 1 67509 133155 1 1 67510 132938 3 1
    67513 255121 1 1 67514 255140 1 1 68736 200064 51 1 68944 200032 22 1 71840 200032 32
    1 93760 200032 32 1 117974 82123 26 1 118000 82048 10 1 119808 80289 26 1 119834 80263
    26 1 119860 80237 26 1 119886 80211 13 2 119887 80211 3 2 119895 80211 9 2 119912
    80185 26 1 119938 80159 26 1 119964 80133 2 2 119967 80133 1 1 119970 80133 1 1 119973
    80133 2 1 119977 80133 4 1 119982 80133 8 1 119990 80107 4 1 119995 80107 11 2 119998
    80107 3 2 120006 80107 5 2 120016 80081 26 1 120042 80055 26 1 120068 80029 2 1 120071
    80029 4 1 120077 80029 8 1 120086 80029 7 1 120094 80003 26 1 120120 79977 2 1 120123
    79977 4 1 120128 79977 5 1 120134 79977 1 1 120138 79977 7 1 120146 79951 26 1 120172
    79925 26 1 120198 79899 26 1 120224 79873 26 1 120250 79847 26 1 120276 79821 26 1
    120302 79795 26 1 120328 79769 26 1 120354 79743 26 1 120380 79717 26 1 120406 79691
    26 1 120432 79665 26 1 120458 79639 26 1 120484 79821 1 1 120485 80082 1 1 120488
    80457 17 1 120505 80447 1 1 120506 80457 7 1 120513 88198 1 1 120514 80431 17 1 120531
    80432 1 1 120532 80431 7 1 120539 88167 1 1 120540 80409 1 1 120541 80411 1 1 120542
    80412 1 1 120543 80423 1 1 120544 80417 1 1 120545 80415 1 1 120546 80399 17 1 120563
    80389 1 1 120564 80399 7 1 120571 88140 1 1 120572 80373 17 1 120589 80374 1 1 120590
    80373 7 1 120597 88109 1 1 120598 80351 1 1 120599 80353 1 1 120600 80354 1 1 120601
    80365 1 1 120602 80359 1 1 120603 80357 1 1 120604 80341 17 1 120621 80331 1 1 120622
    80341 7 1 120629 88082 1 1 120630 80315 17 1 120647 80316 1 1 120648 80315 7 1 120655
    88051 1 1 120656 80293 1 1 120657 80295 1 1 120658 80296 1 1 120659 80307 1 1 120660
    80301 1 1 120661 80299 1 1 120662 80283 17 1 120679 80273 1 1 120680 80283 7 1 120687
    88024 1 1 120688 80257 17 1 120705 80258 1 1 120706 80257 7 1 120713 87993 1 1 120714
    80235 1 1 120715 80237 1 1 120716 80238 1 1 120717 80249 1 1 120718 80243 1 1 120719
    80241 1 1 120720 80225 17 1 120737 80215 1 1 120738 80225 7 1 120745 87966 1 1 120746
    80199 17 1 120763 80200 1 1 120764 80199 7 1 120771 87935 1 1 120772 80177 1 1 120773
    80179 1 1 120774 80180 1 1 120775 80191 1 1 120776 80185 1 1 120777 80183 1 1 120778
    80211 1 1 120779 80210 1 1 120782 79266 10 1 120792 79256 10 1 120802 79246 10 1
    120812 79236 10 1 120822 79226 10 1 122928 78144 9 1 122937 78145 3 1 122940 78146 11
    1 122951 78148 1 1 122952 78149 2 1 122954 119679 1 1 122955 78286 1 1 122956 78154 1
    1 122957 78155 1 1 122958 78299 1 1 122959 78240 1 1 122960 78271 1 1 122961 78111 9 1
    122970 78112 2 1 122972 78114 2 1 122974 78115 1 1 122975 78116 6 1 122981 78117 2 1
    122983 78186 1 1 122984 78126 1 1 122985 78124 1 1 122986 78133 1 1 122987 78208 1 1
    122988 119589 1 1 122989 78212 1 1 125184 200034 34 1 126464 75111 2 1 126466 75114 1
    1 126467 75116 1 1 126469 75139 1 1 126470 75116 1 1 126471 75110 1 1 126472 75119 1 1
    126473 75137 1 1 126474 75129 4 1 126478 75109 1 1 126479 75114 1 1 126480 75121 1 1
    126481 75108 1 1 126482 75120 1 1 126483 75102 1 1 126484 75104 1 1 126485 75093 2 1
    126487 75095 1 1 126488 75096 1 1 126489 75101 1 1 126490 75102 1 1 126491 75103 1 1
    126492 75154 1 1 126493 75229 1 1 126494 75203 1 1 126495 75152 1 1 126497 75079 1 1
    126498 75082 1 1 126500 75107 1 1 126503 75078 1 1 126505 75105 1 1 126506 75097 4 1
    126510 75077 1 1 126511 75082 1 1 126512 75089 1 1 126513 75076 1 1 126514 75088 1 1
    126516 75072 1 1 126517 75061 2 1 126519 75063 1 1 126521 75069 1 1 126523 75071 1 1
    126530 75050 1 1 126535 75046 1 1 126537 75073 1 1 126539 75065 2 2 126542 75045 1 1
    126543 75050 1 1 126545 75044 1 1 126546 75056 1 1 126548 75040 1 1 126551 75031 1 1
    126553 75037 1 1 126555 75039 1 1 126557 75165 1 1 126559 75088 1 1 126561 75015 1 1
    126562 75018 1 1 126564 75043 1 1 126567 75014 1 1 126568 75023 1 1 126569 75041 1 1
    126570 75033 2 2 126573 75033 1 1 126574 75013 1 1 126575 75018 1 1 126576 75025 1 1
    126577 75012 1 1 126578 75024 1 1 126580 75008 1 1 126581 74997 2 1 126583 74999 1 1
    126585 75005 1 1 126586 75006 1 1 126587 75007 1 1 126588 75058 1 1 126590 75107 1 1
    126592 74983 2 1 126594 74986 1 1 126595 74988 1 1 126596 75011 2 1 126598 74988 1 1
    126599 74982 1 1 126600 74991 1 1 126601 75009 1 1 126603 75001 3 1 126606 74981 1 1
    126607 74986 1 1 126608 74993 1 1 126609 74980 1 1 126610 74992 1 1 126611 74974 1 1
    126612 74976 1 1 126613 74965 2 1 126615 74967 1 1 126616 74968 1 1 126617 74973 1 1
    126618 74974 1 1 126619 74975 1 1 126625 74951 1 1 126626 74954 1 1 126627 74956 1 1
    126629 74979 1 1 126630 74956 1 1 126631 74950 1 1 126632 74959 1 1 126633 74977 1 1
    126635 74969 3 1 126638 74949 1 1 126639 74954 1 1 126640 74961 1 1 126641 74948 1 1
    126642 74960 1 1 126643 74942 1 1 126644 74944 1 1 126645 74933 2 1 126647 74935 1 1
    126648 74936 1 1 126649 74941 1 1 126650 74942 1 1 126651 74943 1 1 127275 72824 1 1
    127276 72838 1 1 127280 72817 26 1 127490 84979 1 1 127504 97659 1 1 127505 95878 1 1
    127506 93946 1 1 127507 84980 1 1 127508 92600 1 1 127509 95301 1 1 127510 107789 1 1
    127511 95314 1 1 127512 92620 1 1 127513 98631 1 1 127514 101447 1 1 127515 98494 1 1
    127516 93553 1 1 127517 96943 1 1 127518 93359 1 1 127519 98513 1 1 127520 93501 1 1
    127521 104545 1 1 127522 102461 1 1 127523 108486 1 1 127524 95244 1 1 127525 94036 1
    1 127526 100910 1 1 127527 97710 1 1 127528 97901 1 1 127529 92439 1 1 127530 92447 1
    1 127531 109407 1 1 127532 96506 1 1 127533 92480 1 1 127534 93957 1 1 127535 97816 1
    1 127536 108672 1 1 127537 97634 1 1 127538 103567 1 1 127539 103815 1 1 127540 93972
    1 1 127541 100747 1 1 127542 98835 1 1 127543 98833 1 1 127544 102459 1 1 127545 93561
    1 1 127546 94396 1 1 127547 109650 1 1 127568 96903 1 1 127569 93918 1 1 130032 70016
    10 1"

/-- Characters that are mapped to several: character, number, characters. -/
def expansionRow : String :=
    "168 2 32 776 175 2 32 772 180 2 32 769 184 2 32 807 188 3 49 8260 52 189 3 49 8260 50
    190 3 51 8260 52 304 2 105 775 306 2 105 106 307 2 105 106 319 2 108 183 320 2 108 183
    329 2 700 110 452 2 100 382 453 2 100 382 454 2 100 382 455 2 108 106 456 2 108 106
    457 2 108 106 458 2 110 106 459 2 110 106 460 2 110 106 497 2 100 122 498 2 100 122
    499 2 100 122 728 2 32 774 729 2 32 775 730 2 32 778 731 2 32 808 732 2 32 771 733 2
    32 779 836 2 776 769 890 2 32 953 900 2 32 769 901 3 32 776 769 1415 2 1381 1410 1653
    2 1575 1652 1654 2 1608 1652 1655 2 1735 1652 1656 2 1610 1652 2392 2 2325 2364 2393 2
    2326 2364 2394 2 2327 2364 2395 2 2332 2364 2396 2 2337 2364 2397 2 2338 2364 2398 2
    2347 2364 2399 2 2351 2364 2524 2 2465 2492 2525 2 2466 2492 2527 2 2479 2492 2611 2
    2610 2620 2614 2 2616 2620 2649 2 2582 2620 2650 2 2583 2620 2651 2 2588 2620 2654 2
    2603 2620 2908 2 2849 2876 2909 2 2850 2876 3635 2 3661 3634 3763 2 3789 3762 3804 2
    3755 3737 3805 2 3755 3745 3907 2 3906 4023 3917 2 3916 4023 3922 2 3921 4023 3927 2
    3926 4023 3932 2 3931 4023 3945 2 3904 4021 3955 2 3953 3954 3957 2 3953 3956 3958 2
    4018 3968 3959 3 4018 3953 3968 3960 2 4019 3968 3961 3 4019 3953 3968 3969 2 3953
    3968 3987 2 3986 4023 3997 2 3996 4023 4002 2 4001 4023 4007 2 4006 4023 4012 2 4011
    4023 4025 2 3984 4021 7834 2 97 702 8064 2 7936 953 8065 2 7937 953 8066 2 7938 953
    8067 2 7939 953 8068 2 7940 953 8069 2 7941 953 8070 2 7942 953 8071 2 7943 953 8072 2
    7936 953 8073 2 7937 953 8074 2 7938 953 8075 2 7939 953 8076 2 7940 953 8077 2 7941
    953 8078 2 7942 953 8079 2 7943 953 8080 2 7968 953 8081 2 7969 953 8082 2 7970 953
    8083 2 7971 953 8084 2 7972 953 8085 2 7973 953 8086 2 7974 953 8087 2 7975 953 8088 2
    7968 953 8089 2 7969 953 8090 2 7970 953 8091 2 7971 953 8092 2 7972 953 8093 2 7973
    953 8094 2 7974 953 8095 2 7975 953 8096 2 8032 953 8097 2 8033 953 8098 2 8034 953
    8099 2 8035 953 8100 2 8036 953 8101 2 8037 953 8102 2 8038 953 8103 2 8039 953 8104 2
    8032 953 8105 2 8033 953 8106 2 8034 953 8107 2 8035 953 8108 2 8036 953 8109 2 8037
    953 8110 2 8038 953 8111 2 8039 953 8114 2 8048 953 8115 2 945 953 8116 2 940 953 8119
    2 8118 953 8124 2 945 953 8125 2 32 787 8127 2 32 787 8128 2 32 834 8129 3 32 776 834
    8130 2 8052 953 8131 2 951 953 8132 2 942 953 8135 2 8134 953 8140 2 951 953 8141 3 32
    787 768 8142 3 32 787 769 8143 3 32 787 834 8157 3 32 788 768 8158 3 32 788 769 8159 3
    32 788 834 8173 3 32 776 768 8174 3 32 776 769 8178 2 8060 953 8179 2 969 953 8180 2
    974 953 8183 2 8182 953 8188 2 969 953 8189 2 32 769 8190 2 32 788 8215 2 32 819 8243
    2 8242 8242 8244 3 8242 8242 8242 8246 2 8245 8245 8247 3 8245 8245 8245 8252 2 33 33
    8254 2 32 773 8263 2 63 63 8264 2 63 33 8265 2 33 63 8279 4 8242 8242 8242 8242 8360 2
    114 115 8448 3 97 47 99 8449 3 97 47 115 8451 2 176 99 8453 3 99 47 111 8454 3 99 47
    117 8457 2 176 102 8470 2 110 111 8480 2 115 109 8481 3 116 101 108 8482 2 116 109
    8507 3 102 97 120 8528 3 49 8260 55 8529 3 49 8260 57 8530 4 49 8260 49 48 8531 3 49
    8260 51 8532 3 50 8260 51 8533 3 49 8260 53 8534 3 50 8260 53 8535 3 51 8260 53 8536 3
    52 8260 53 8537 3 49 8260 54 8538 3 53 8260 54 8539 3 49 8260 56 8540 3 51 8260 56
    8541 3 53 8260 56 8542 3 55 8260 56 8543 2 49 8260 8545 2 105 105 8546 3 105 105 105
    8547 2 105 118 8549 2 118 105 8550 3 118 105 105 8551 4 118 105 105 105 8552 2 105 120
    8554 2 120 105 8555 3 120 105 105 8561 2 105 105 8562 3 105 105 105 8563 2 105 118
    8565 2 118 105 8566 3 118 105 105 8567 4 118 105 105 105 8568 2 105 120 8570 2 120 105
    8571 3 120 105 105 8585 3 48 8260 51 8748 2 8747 8747 8749 3 8747 8747 8747 8751 2
    8750 8750 8752 3 8750 8750 8750 9321 2 49 48 9322 2 49 49 9323 2 49 50 9324 2 49 51
    9325 2 49 52 9326 2 49 53 9327 2 49 54 9328 2 49 55 9329 2 49 56 9330 2 49 57 9331 2
    50 48 9332 3 40 49 41 9333 3 40 50 41 9334 3 40 51 41 9335 3 40 52 41 9336 3 40 53 41
    9337 3 40 54 41 9338 3 40 55 41 9339 3 40 56 41 9340 3 40 57 41 9341 4 40 49 48 41
    9342 4 40 49 49 41 9343 4 40 49 50 41 9344 4 40 49 51 41 9345 4 40 49 52 41 9346 4 40
    49 53 41 9347 4 40 49 54 41 9348 4 40 49 55 41 9349 4 40 49 56 41 9350 4 40 49 57 41
    9351 4 40 50 48 41 9372 3 40 97 41 9373 3 40 98 41 9374 3 40 99 41 9375 3 40 100 41
    9376 3 40 101 41 9377 3 40 102 41 9378 3 40 103 41 9379 3 40 104 41 9380 3 40 105 41
    9381 3 40 106 41 9382 3 40 107 41 9383 3 40 108 41 9384 3 40 109 41 9385 3 40 110 41
    9386 3 40 111 41 9387 3 40 112 41 9388 3 40 113 41 9389 3 40 114 41 9390 3 40 115 41
    9391 3 40 116 41 9392 3 40 117 41 9393 3 40 118 41 9394 3 40 119 41 9395 3 40 120 41
    9396 3 40 121 41 9397 3 40 122 41 10764 4 8747 8747 8747 8747 10868 3 58 58 61 10869 2
    61 61 10870 3 61 61 61 10972 2 10973 824 12443 2 32 12441 12444 2 32 12442 12447 2
    12424 12426 12543 2 12467 12488 12800 3 40 4352 41 12801 3 40 4354 41 12802 3 40 4355
    41 12803 3 40 4357 41 12804 3 40 4358 41 12805 3 40 4359 41 12806 3 40 4361 41 12807 3
    40 4363 41 12808 3 40 4364 41 12809 3 40 4366 41 12810 3 40 4367 41 12811 3 40 4368 41
    12812 3 40 4369 41 12813 3 40 4370 41 12814 3 40 44032 41 12815 3 40 45208 41 12816 3
    40 45796 41 12817 3 40 46972 41 12818 3 40 47560 41 12819 3 40 48148 41 12820 3 40
    49324 41 12821 3 40 50500 41 12822 3 40 51088 41 12823 3 40 52264 41 12824 3 40 52852
    41 12825 3 40 53440 41 12826 3 40 54028 41 12827 3 40 54616 41 12828 3 40 51452 41
    12829 4 40 50724 51204 41 12830 4 40 50724 54980 41 12832 3 40 19968 41 12833 3 40
    20108 41 12834 3 40 19977 41 12835 3 40 22235 41 12836 3 40 20116 41 12837 3 40 20845
    41 12838 3 40 19971 41 12839 3 40 20843 41 12840 3 40 20061 41 12841 3 40 21313 41
    12842 3 40 26376 41 12843 3 40 28779 41 12844 3 40 27700 41 12845 3 40 26408 41 12846
    3 40 37329 41 12847 3 40 22303 41 12848 3 40 26085 41 12849 3 40 26666 41 12850 3 40
    26377 41 12851 3 40 31038 41 12852 3 40 21517 41 12853 3 40 29305 41 12854 3 40 36001
    41 12855 3 40 31069 41 12856 3 40 21172 41 12857 3 40 20195 41 12858 3 40 21628 41
    12859 3 40 23398 41 12860 3 40 30435 41 12861 3 40 20225 41 12862 3 40 36039 41 12863
    3 40 21332 41 12864 3 40 31085 41 12865 3 40 20241 41 12866 3 40 33258 41 12867 3 40
    33267 41 12880 3 112 116 101 12881 2 50 49 12882 2 50 50 12883 2 50 51 12884 2 50 52
    12885 2 50 53 12886 2 50 54 12887 2 50 55 12888 2 50 56 12889 2 50 57 12890 2 51 48
    12891 2 51 49 12892 2 51 50 12893 2 51 51 12894 2 51 52 12895 2 51 53 12924 2 52280
    44256 12925 2 51452 51032 12977 2 51 54 12978 2 51 55 12979 2 51 56 12980 2 51 57
    12981 2 52 48 12982 2 52 49 12983 2 52 50 12984 2 52 51 12985 2 52 52 12986 2 52 53
    12987 2 52 54 12988 2 52 55 12989 2 52 56 12990 2 52 57 12991 2 53 48 12992 2 49 26376
    12993 2 50 26376 12994 2 51 26376 12995 2 52 26376 12996 2 53 26376 12997 2 54 26376
    12998 2 55 26376 12999 2 56 26376 13000 2 57 26376 13001 3 49 48 26376 13002 3 49 49
    26376 13003 3 49 50 26376 13004 2 104 103 13005 3 101 114 103 13006 2 101 118 13007 3
    108 116 100 13055 2 20196 21644 13056 4 12450 12497 12540 12488 13057 4 12450 12523
    12501 12449 13058 4 12450 12531 12506 12450 13059 3 12450 12540 12523 13060 4 12452
    12491 12531 12464 13061 3 12452 12531 12481 13062 3 12454 12457 12531 13063 5 12456
    12473 12463 12540 12489 13064 4 12456 12540 12459 12540 13065 3 12458 12531 12473
    13066 3 12458 12540 12512 13067 3 12459 12452 12522 13068 4 12459 12521 12483 12488
    13069 4 12459 12525 12522 12540 13070 3 12460 12525 12531 13071 3 12460 12531 12510
    13072 2 12462 12460 13073 3 12462 12491 12540 13074 4 12461 12517 12522 12540 13075 4
    12462 12523 12480 12540 13076 2 12461 12525 13077 5 12461 12525 12464 12521 12512
    13078 6 12461 12525 12513 12540 12488 12523 13079 5 12461 12525 12527 12483 12488
    13080 3 12464 12521 12512 13081 5 12464 12521 12512 12488 12531 13082 5 12463 12523
    12476 12452 12525 13083 4 12463 12525 12540 12493 13084 3 12465 12540 12473 13085 3
    12467 12523 12490 13086 3 12467 12540 12509 13087 4 12469 12452 12463 12523 13088 5
    12469 12531 12481 12540 12512 13089 4 12471 12522 12531 12464 13090 3 12475 12531
    12481 13091 3 12475 12531 12488 13092 3 12480 12540 12473 13093 2 12487 12471 13094 2
    12489 12523 13095 2 12488 12531 13096 2 12490 12494 13097 3 12494 12483 12488 13098 3
    12495 12452 12484 13099 5 12497 12540 12475 12531 12488 13100 3 12497 12540 12484
    13101 4 12496 12540 12524 12523 13102 5 12500 12450 12473 12488 12523 13103 3 12500
    12463 12523 13104 2 12500 12467 13105 2 12499 12523 13106 5 12501 12449 12521 12483
    12489 13107 4 12501 12451 12540 12488 13108 5 12502 12483 12471 12455 12523 13109 3
    12501 12521 12531 13110 5 12504 12463 12479 12540 12523 13111 2 12506 12477 13112 3
    12506 12491 12498 13113 3 12504 12523 12484 13114 3 12506 12531 12473 13115 3 12506
    12540 12472 13116 3 12505 12540 12479 13117 4 12509 12452 12531 12488 13118 3 12508
    12523 12488 13119 2 12507 12531 13120 3 12509 12531 12489 13121 3 12507 12540 12523
    13122 3 12507 12540 12531 13123 4 12510 12452 12463 12525 13124 3 12510 12452 12523
    13125 3 12510 12483 12495 13126 3 12510 12523 12463 13127 5 12510 12531 12471 12519
    12531 13128 4 12511 12463 12525 12531 13129 2 12511 12522 13130 5 12511 12522 12496
    12540 12523 13131 2 12513 12460 13132 4 12513 12460 12488 12531 13133 4 12513 12540
    12488 12523 13134 3 12516 12540 12489 13135 3 12516 12540 12523 13136 3 12518 12450
    12531 13137 4 12522 12483 12488 12523 13138 2 12522 12521 13139 3 12523 12500 12540
    13140 4 12523 12540 12502 12523 13141 2 12524 12512 13142 5 12524 12531 12488 12466
    12531 13143 3 12527 12483 12488 13144 2 48 28857 13145 2 49 28857 13146 2 50 28857
    13147 2 51 28857 13148 2 52 28857 13149 2 53 28857 13150 2 54 28857 13151 2 55 28857
    13152 2 56 28857 13153 2 57 28857 13154 3 49 48 28857 13155 3 49 49 28857 13156 3 49
    50 28857 13157 3 49 51 28857 13158 3 49 52 28857 13159 3 49 53 28857 13160 3 49 54
    28857 13161 3 49 55 28857 13162 3 49 56 28857 13163 3 49 57 28857 13164 3 50 48 28857
    13165 3 50 49 28857 13166 3 50 50 28857 13167 3 50 51 28857 13168 3 50 52 28857 13169
    3 104 112 97 13170 2 100 97 13171 2 97 117 13172 3 98 97 114 13173 2 111 118 13174 2
    112 99 13175 2 100 109 13176 3 100 109 50 13177 3 100 109 51 13178 2 105 117 13179 2
    24179 25104 13180 2 26157 21644 13181 2 22823 27491 13182 2 26126 27835 13183 4 26666
    24335 20250 31038 13184 2 112 97 13185 2 110 97 13186 2 956 97 13187 2 109 97 13188 2
    107 97 13189 2 107 98 13190 2 109 98 13191 2 103 98 13192 3 99 97 108 13193 4 107 99
    97 108 13194 2 112 102 13195 2 110 102 13196 2 956 102 13197 2 956 103 13198 2 109 103
    13199 2 107 103 13200 2 104 122 13201 3 107 104 122 13202 3 109 104 122 13203 3 103
    104 122 13204 3 116 104 122 13205 2 956 108 13206 2 109 108 13207 2 100 108 13208 2
    107 108 13209 2 102 109 13210 2 110 109 13211 2 956 109 13212 2 109 109 13213 2 99 109
    13214 2 107 109 13215 3 109 109 50 13216 3 99 109 50 13217 2 109 50 13218 3 107 109 50
    13219 3 109 109 51 13220 3 99 109 51 13221 2 109 51 13222 3 107 109 51 13223 3 109
    8725 115 13224 4 109 8725 115 50 13225 2 112 97 13226 3 107 112 97 13227 3 109 112 97
    13228 3 103 112 97 13229 3 114 97 100 13230 5 114 97 100 8725 115 13231 6 114 97 100
    8725 115 50 13232 2 112 115 13233 2 110 115 13234 2 956 115 13235 2 109 115 13236 2
    112 118 13237 2 110 118 13238 2 956 118 13239 2 109 118 13240 2 107 118 13241 2 109
    118 13242 2 112 119 13243 2 110 119 13244 2 956 119 13245 2 109 119 13246 2 107 119
    13247 2 109 119 13248 2 107 969 13249 2 109 969 13251 2 98 113 13252 2 99 99 13253 2
    99 100 13254 4 99 8725 107 103 13256 2 100 98 13257 2 103 121 13258 2 104 97 13259 2
    104 112 13260 2 105 110 13261 2 107 107 13262 2 107 109 13263 2 107 116 13264 2 108
    109 13265 2 108 110 13266 3 108 111 103 13267 2 108 120 13268 2 109 98 13269 3 109 105
    108 13270 3 109 111 108 13271 2 112 104 13273 3 112 112 109 13274 2 112 114 13275 2
    115 114 13276 2 115 118 13277 2 119 98 13278 3 118 8725 109 13279 3 97 8725 109 13280
    2 49 26085 13281 2 50 26085 13282 2 51 26085 13283 2 52 26085 13284 2 53 26085 13285 2
    54 26085 13286 2 55 26085 13287 2 56 26085 13288 2 57 26085 13289 3 49 48 26085 13290
    3 49 49 26085 13291 3 49 50 26085 13292 3 49 51 26085 13293 3 49 52 26085 13294 3 49
    53 26085 13295 3 49 54 26085 13296 3 49 55 26085 13297 3 49 56 26085 13298 3 49 57
    26085 13299 3 50 48 26085 13300 3 50 49 26085 13301 3 50 50 26085 13302 3 50 51 26085
    13303 3 50 52 26085 13304 3 50 53 26085 13305 3 50 54 26085 13306 3 50 55 26085 13307
    3 50 56 26085 13308 3 50 57 26085 13309 3 51 48 26085 13310 3 51 49 26085 13311 3 103
    97 108 64256 2 102 102 64257 2 102 105 64258 2 102 108 64259 3 102 102 105 64260 3 102
    102 108 64261 2 115 116 64262 2 115 116 64275 2 1396 1398 64276 2 1396 1381 64277 2
    1396 1387 64278 2 1406 1398 64279 2 1396 1389 64285 2 1497 1460 64287 2 1522 1463
    64298 2 1513 1473 64299 2 1513 1474 64300 3 1513 1468 1473 64301 3 1513 1468 1474
    64302 2 1488 1463 64303 2 1488 1464 64304 2 1488 1468 64305 2 1489 1468 64306 2 1490
    1468 64307 2 1491 1468 64308 2 1492 1468 64309 2 1493 1468 64310 2 1494 1468 64312 2
    1496 1468 64313 2 1497 1468 64314 2 1498 1468 64315 2 1499 1468 64316 2 1500 1468
    64318 2 1502 1468 64320 2 1504 1468 64321 2 1505 1468 64323 2 1507 1468 64324 2 1508
    1468 64326 2 1510 1468 64327 2 1511 1468 64328 2 1512 1468 64329 2 1513 1468 64330 2
    1514 1468 64331 2 1493 1465 64332 2 1489 1471 64333 2 1499 1471 64334 2 1508 1471
    64335 2 1488 1500 64477 2 1735 1652 64490 2 1574 1575 64491 2 1574 1575 64492 2 1574
    1749 64493 2 1574 1749 64494 2 1574 1608 64495 2 1574 1608 64496 2 1574 1735 64497 2
    1574 1735 64498 2 1574 1734 64499 2 1574 1734 64500 2 1574 1736 64501 2 1574 1736
    64502 2 1574 1744 64503 2 1574 1744 64504 2 1574 1744 64505 2 1574 1609 64506 2 1574
    1609 64507 2 1574 1609 64512 2 1574 1580 64513 2 1574 1581 64514 2 1574 1605 64515 2
    1574 1609 64516 2 1574 1610 64517 2 1576 1580 64518 2 1576 1581 64519 2 1576 1582
    64520 2 1576 1605 64521 2 1576 1609 64522 2 1576 1610 64523 2 1578 1580 64524 2 1578
    1581 64525 2 1578 1582 64526 2 1578 1605 64527 2 1578 1609 64528 2 1578 1610 64529 2
    1579 1580 64530 2 1579 1605 64531 2 1579 1609 64532 2 1579 1610 64533 2 1580 1581
    64534 2 1580 1605 64535 2 1581 1580 64536 2 1581 1605 64537 2 1582 1580 64538 2 1582
    1581 64539 2 1582 1605 64540 2 1587 1580 64541 2 1587 1581 64542 2 1587 1582 64543 2
    1587 1605 64544 2 1589 1581 64545 2 1589 1605 64546 2 1590 1580 64547 2 1590 1581
    64548 2 1590 1582 64549 2 1590 1605 64550 2 1591 1581 64551 2 1591 1605 64552 2 1592
    1605 64553 2 1593 1580 64554 2 1593 1605 64555 2 1594 1580 64556 2 1594 1605 64557 2
    1601 1580 64558 2 1601 1581 64559 2 1601 1582 64560 2 1601 1605 64561 2 1601 1609
    64562 2 1601 1610 64563 2 1602 1581 64564 2 1602 1605 64565 2 1602 1609 64566 2 1602
    1610 64567 2 1603 1575 64568 2 1603 1580 64569 2 1603 1581 64570 2 1603 1582 64571 2
    1603 1604 64572 2 1603 1605 64573 2 1603 1609 64574 2 1603 1610 64575 2 1604 1580
    64576 2 1604 1581 64577 2 1604 1582 64578 2 1604 1605 64579 2 1604 1609 64580 2 1604
    1610 64581 2 1605 1580 64582 2 1605 1581 64583 2 1605 1582 64584 2 1605 1605 64585 2
    1605 1609 64586 2 1605 1610 64587 2 1606 1580 64588 2 1606 1581 64589 2 1606 1582
    64590 2 1606 1605 64591 2 1606 1609 64592 2 1606 1610 64593 2 1607 1580 64594 2 1607
    1605 64595 2 1607 1609 64596 2 1607 1610 64597 2 1610 1580 64598 2 1610 1581 64599 2
    1610 1582 64600 2 1610 1605 64601 2 1610 1609 64602 2 1610 1610 64603 2 1584 1648
    64604 2 1585 1648 64605 2 1609 1648 64606 3 32 1612 1617 64607 3 32 1613 1617 64608 3
    32 1614 1617 64609 3 32 1615 1617 64610 3 32 1616 1617 64611 3 32 1617 1648 64612 2
    1574 1585 64613 2 1574 1586 64614 2 1574 1605 64615 2 1574 1606 64616 2 1574 1609
    64617 2 1574 1610 64618 2 1576 1585 64619 2 1576 1586 64620 2 1576 1605 64621 2 1576
    1606 64622 2 1576 1609 64623 2 1576 1610 64624 2 1578 1585 64625 2 1578 1586 64626 2
    1578 1605 64627 2 1578 1606 64628 2 1578 1609 64629 2 1578 1610 64630 2 1579 1585
    64631 2 1579 1586 64632 2 1579 1605 64633 2 1579 1606 64634 2 1579 1609 64635 2 1579
    1610 64636 2 1601 1609 64637 2 1601 1610 64638 2 1602 1609 64639 2 1602 1610 64640 2
    1603 1575 64641 2 1603 1604 64642 2 1603 1605 64643 2 1603 1609 64644 2 1603 1610
    64645 2 1604 1605 64646 2 1604 1609 64647 2 1604 1610 64648 2 1605 1575 64649 2 1605
    1605 64650 2 1606 1585 64651 2 1606 1586 64652 2 1606 1605 64653 2 1606 1606 64654 2
    1606 1609 64655 2 1606 1610 64656 2 1609 1648 64657 2 1610 1585 64658 2 1610 1586
    64659 2 1610 1605 64660 2 1610 1606 64661 2 1610 1609 64662 2 1610 1610 64663 2 1574
    1580 64664 2 1574 1581 64665 2 1574 1582 64666 2 1574 1605 64667 2 1574 1607 64668 2
    1576 1580 64669 2 1576 1581 64670 2 1576 1582 64671 2 1576 1605 64672 2 1576 1607
    64673 2 1578 1580 64674 2 1578 1581 64675 2 1578 1582 64676 2 1578 1605 64677 2 1578
    1607 64678 2 1579 1605 64679 2 1580 1581 64680 2 1580 1605 64681 2 1581 1580 64682 2
    1581 1605 64683 2 1582 1580 64684 2 1582 1605 64685 2 1587 1580 64686 2 1587 1581
    64687 2 1587 1582 64688 2 1587 1605 64689 2 1589 1581 64690 2 1589 1582 64691 2 1589
    1605 64692 2 1590 1580 64693 2 1590 1581 64694 2 1590 1582 64695 2 1590 1605 64696 2
    1591 1581 64697 2 1592 1605 64698 2 1593 1580 64699 2 1593 1605 64700 2 1594 1580
    64701 2 1594 1605 64702 2 1601 1580 64703 2 1601 1581 64704 2 1601 1582 64705 2 1601
    1605 64706 2 1602 1581 64707 2 1602 1605 64708 2 1603 1580 64709 2 1603 1581 64710 2
    1603 1582 64711 2 1603 1604 64712 2 1603 1605 64713 2 1604 1580 64714 2 1604 1581
    64715 2 1604 1582 64716 2 1604 1605 64717 2 1604 1607 64718 2 1605 1580 64719 2 1605
    1581 64720 2 1605 1582 64721 2 1605 1605 64722 2 1606 1580 64723 2 1606 1581 64724 2
    1606 1582 64725 2 1606 1605 64726 2 1606 1607 64727 2 1607 1580 64728 2 1607 1605
    64729 2 1607 1648 64730 2 1610 1580 64731 2 1610 1581 64732 2 1610 1582 64733 2 1610
    1605 64734 2 1610 1607 64735 2 1574 1605 64736 2 1574 1607 64737 2 1576 1605 64738 2
    1576 1607 64739 2 1578 1605 64740 2 1578 1607 64741 2 1579 1605 64742 2 1579 1607
    64743 2 1587 1605 64744 2 1587 1607 64745 2 1588 1605 64746 2 1588 1607 64747 2 1603
    1604 64748 2 1603 1605 64749 2 1604 1605 64750 2 1606 1605 64751 2 1606 1607 64752 2
    1610 1605 64753 2 1610 1607 64754 3 1600 1614 1617 64755 3 1600 1615 1617 64756 3 1600
    1616 1617 64757 2 1591 1609 64758 2 1591 1610 64759 2 1593 1609 64760 2 1593 1610
    64761 2 1594 1609 64762 2 1594 1610 64763 2 1587 1609 64764 2 1587 1610 64765 2 1588
    1609 64766 2 1588 1610 64767 2 1581 1609 64768 2 1581 1610 64769 2 1580 1609 64770 2
    1580 1610 64771 2 1582 1609 64772 2 1582 1610 64773 2 1589 1609 64774 2 1589 1610
    64775 2 1590 1609 64776 2 1590 1610 64777 2 1588 1580 64778 2 1588 1581 64779 2 1588
    1582 64780 2 1588 1605 64781 2 1588 1585 64782 2 1587 1585 64783 2 1589 1585 64784 2
    1590 1585 64785 2 1591 1609 64786 2 1591 1610 64787 2 1593 1609 64788 2 1593 1610
    64789 2 1594 1609 64790 2 1594 1610 64791 2 1587 1609 64792 2 1587 1610 64793 2 1588
    1609 64794 2 1588 1610 64795 2 1581 1609 64796 2 1581 1610 64797 2 1580 1609 64798 2
    1580 1610 64799 2 1582 1609 64800 2 1582 1610 64801 2 1589 1609 64802 2 1589 1610
    64803 2 1590 1609 64804 2 1590 1610 64805 2 1588 1580 64806 2 1588 1581 64807 2 1588
    1582 64808 2 1588 1605 64809 2 1588 1585 64810 2 1587 1585 64811 2 1589 1585 64812 2
    1590 1585 64813 2 1588 1580 64814 2 1588 1581 64815 2 1588 1582 64816 2 1588 1605
    64817 2 1587 1607 64818 2 1588 1607 64819 2 1591 1605 64820 2 1587 1580 64821 2 1587
    1581 64822 2 1587 1582 64823 2 1588 1580 64824 2 1588 1581 64825 2 1588 1582 64826 2
    1591 1605 64827 2 1592 1605 64828 2 1575 1611 64829 2 1575 1611 64848 3 1578 1580 1605
    64849 3 1578 1581 1580 64850 3 1578 1581 1580 64851 3 1578 1581 1605 64852 3 1578 1582
    1605 64853 3 1578 1605 1580 64854 3 1578 1605 1581 64855 3 1578 1605 1582 64856 3 1580
    1605 1581 64857 3 1580 1605 1581 64858 3 1581 1605 1610 64859 3 1581 1605 1609 64860 3
    1587 1581 1580 64861 3 1587 1580 1581 64862 3 1587 1580 1609 64863 3 1587 1605 1581
    64864 3 1587 1605 1581 64865 3 1587 1605 1580 64866 3 1587 1605 1605 64867 3 1587 1605
    1605 64868 3 1589 1581 1581 64869 3 1589 1581 1581 64870 3 1589 1605 1605 64871 3 1588
    1581 1605 64872 3 1588 1581 1605 64873 3 1588 1580 1610 64874 3 1588 1605 1582 64875 3
    1588 1605 1582 64876 3 1588 1605 1605 64877 3 1588 1605 1605 64878 3 1590 1581 1609
    64879 3 1590 1582 1605 64880 3 1590 1582 1605 64881 3 1591 1605 1581 64882 3 1591 1605
    1581 64883 3 1591 1605 1605 64884 3 1591 1605 1610 64885 3 1593 1580 1605 64886 3 1593
    1605 1605 64887 3 1593 1605 1605 64888 3 1593 1605 1609 64889 3 1594 1605 1605 64890 3
    1594 1605 1610 64891 3 1594 1605 1609 64892 3 1601 1582 1605 64893 3 1601 1582 1605
    64894 3 1602 1605 1581 64895 3 1602 1605 1605 64896 3 1604 1581 1605 64897 3 1604 1581
    1610 64898 3 1604 1581 1609 64899 3 1604 1580 1580 64900 3 1604 1580 1580 64901 3 1604
    1582 1605 64902 3 1604 1582 1605 64903 3 1604 1605 1581 64904 3 1604 1605 1581 64905 3
    1605 1581 1580 64906 3 1605 1581 1605 64907 3 1605 1581 1610 64908 3 1605 1580 1581
    64909 3 1605 1580 1605 64910 3 1605 1582 1580 64911 3 1605 1582 1605 64914 3 1605 1580
    1582 64915 3 1607 1605 1580 64916 3 1607 1605 1605 64917 3 1606 1581 1605 64918 3 1606
    1581 1609 64919 3 1606 1580 1605 64920 3 1606 1580 1605 64921 3 1606 1580 1609 64922 3
    1606 1605 1610 64923 3 1606 1605 1609 64924 3 1610 1605 1605 64925 3 1610 1605 1605
    64926 3 1576 1582 1610 64927 3 1578 1580 1610 64928 3 1578 1580 1609 64929 3 1578 1582
    1610 64930 3 1578 1582 1609 64931 3 1578 1605 1610 64932 3 1578 1605 1609 64933 3 1580
    1605 1610 64934 3 1580 1581 1609 64935 3 1580 1605 1609 64936 3 1587 1582 1609 64937 3
    1589 1581 1610 64938 3 1588 1581 1610 64939 3 1590 1581 1610 64940 3 1604 1580 1610
    64941 3 1604 1605 1610 64942 3 1610 1581 1610 64943 3 1610 1580 1610 64944 3 1610 1605
    1610 64945 3 1605 1605 1610 64946 3 1602 1605 1610 64947 3 1606 1581 1610 64948 3 1602
    1605 1581 64949 3 1604 1581 1605 64950 3 1593 1605 1610 64951 3 1603 1605 1610 64952 3
    1606 1580 1581 64953 3 1605 1582 1610 64954 3 1604 1580 1605 64955 3 1603 1605 1605
    64956 3 1604 1580 1605 64957 3 1606 1580 1581 64958 3 1580 1581 1610 64959 3 1581 1580
    1610 64960 3 1605 1580 1610 64961 3 1601 1605 1610 64962 3 1576 1581 1610 64963 3 1603
    1605 1605 64964 3 1593 1580 1605 64965 3 1589 1605 1605 64966 3 1587 1582 1610 64967 3
    1606 1580 1610 65008 3 1589 1604 1746 65009 3 1602 1604 1746 65010 4 1575 1604 1604
    1607 65011 4 1575 1603 1576 1585 65012 4 1605 1581 1605 1583 65013 4 1589 1604 1593
    1605 65014 4 1585 1587 1608 1604 65015 4 1593 1604 1610 1607 65016 4 1608 1587 1604
    1605 65017 3 1589 1604 1609 65018 18 1589 1604 1609 32 1575 1604 1604 1607 32 1593
    1604 1610 1607 32 1608 1587 1604 1605 65019 8 1580 1604 32 1580 1604 1575 1604 1607
    65020 4 1585 1740 1575 1604 65097 2 32 773 65098 2 32 773 65099 2 32 773 65100 2 32
    773 65136 2 32 1611 65137 2 1600 1611 65138 2 32 1612 65140 2 32 1613 65142 2 32 1614
    65143 2 1600 1614 65144 2 32 1615 65145 2 1600 1615 65146 2 32 1616 65147 2 1600 1616
    65148 2 32 1617 65149 2 1600 1617 65150 2 32 1618 65151 2 1600 1618 65269 2 1604 1570
    65270 2 1604 1570 65271 2 1604 1571 65272 2 1604 1571 65273 2 1604 1573 65274 2 1604
    1573 65275 2 1604 1575 65276 2 1604 1575 65507 2 32 772 119134 2 119127 119141 119135
    2 119128 119141 119136 3 119128 119141 119150 119137 3 119128 119141 119151 119138 3
    119128 119141 119152 119139 3 119128 119141 119153 119140 3 119128 119141 119154
    119227 2 119225 119141 119228 2 119226 119141 119229 3 119225 119141 119150 119230 3
    119226 119141 119150 119231 3 119225 119141 119151 119232 3 119226 119141 119151
    127233 2 48 44 127234 2 49 44 127235 2 50 44 127236 2 51 44 127237 2 52 44 127238 2 53
    44 127239 2 54 44 127240 2 55 44 127241 2 56 44 127242 2 57 44 127248 3 40 97 41
    127249 3 40 98 41 127250 3 40 99 41 127251 3 40 100 41 127252 3 40 101 41 127253 3 40
    102 41 127254 3 40 103 41 127255 3 40 104 41 127256 3 40 105 41 127257 3 40 106 41
    127258 3 40 107 41 127259 3 40 108 41 127260 3 40 109 41 127261 3 40 110 41 127262 3
    40 111 41 127263 3 40 112 41 127264 3 40 113 41 127265 3 40 114 41 127266 3 40 115 41
    127267 3 40 116 41 127268 3 40 117 41 127269 3 40 118 41 127270 3 40 119 41 127271 3
    40 120 41 127272 3 40 121 41 127273 3 40 122 41 127274 3 12308 115 12309 127277 2 99
    100 127278 2 119 122 127306 2 104 118 127307 2 109 118 127308 2 115 100 127309 2 115
    115 127310 3 112 112 118 127311 2 119 99 127338 2 109 99 127339 2 109 100 127340 2 109
    114 127376 2 100 106 127488 2 12411 12363 127489 2 12467 12467 127552 3 12308 26412
    12309 127553 3 12308 19977 12309 127554 3 12308 20108 12309 127555 3 12308 23433 12309
    127556 3 12308 28857 12309 127557 3 12308 25171 12309 127558 3 12308 30423 12309
    127559 3 12308 21213 12309 127560 3 12308 25943 12309"

def kept : Ranges := Ranges.ofRow keptRow

def ignored : Ranges := Ranges.ofRow ignoredRow

def links : List Links := Links.ofNumbers (Ranges.numbers linkRow)

def expanded : List (Nat × List Nat) := Unicode.expansions expansionRow

/-! ## §2  Mapping -/

/-- What a character is mapped to; a character that may not stand in a name is mapped to nothing. -/
def mapCode? (n : Nat) : Option (List Nat) :=
  if Ranges.contains n kept then some [n]
  else if Ranges.contains n ignored then some []
  else
    match links.find? (Links.startsAt n) with
    | some l => some [n + l.distance - Links.base]
    | none => expanded.lookup n

def mapText? (ns : List Nat) : Option (List Nat) :=
  (ns.mapM mapCode?).map fun rs => Unicode.canonical rs.flatten

def isMapped (ns : List Nat) : Bool :=
  ns.all (fun n => Ranges.contains n kept) && Unicode.canonical ns == ns

end ReplySchema.Domain
