import Greenhouse.Text.CodePoints

/-!
# Greenhouse.Domain.Direction.Table

The writing directions of characters that are not simply left to right.
-/

namespace Greenhouse.Domain.Direction

open Greenhouse.Text

/-- The rows of ASCII and the controls behind it. -/
def basicRows : String :=
  "0 9 8, 0 5 10, 0 14 8, 0 5 10, 0 2 7, 0 3 6, 0 5 7, 0 1 4, 0 1 5, 0 1 4, 0 2 5, 0 10 3, 0 1 5,
0 6 7, 26 6 7, 26 4 7, 0 6 8,"

/-- The classes: 0 right to left, 1 Arabic letter, 2 Arabic number, 3 European number, 4 European
separator, 5 common separator, 6 European terminator, 7 other neutral, 8 boundary neutral,
9 nonspacing mark, 10 a class that no label of a right-to-left domain may hold. -/
def classes : CodeClasses := .ofText (basicRows ++ "
0 1 10, 0 26 8, 0 1 5, 0 1 7, 0 4 6, 0 4 7, 1 2 7, 0 1 8, 0 2 7,
0 2 6, 0 2 3, 0 1 7, 1 3 7, 0 1 3, 1 5 7, 23 1 7, 31 1 7, 449 2 7, 7 14 7, 2 14 7, 5 9 7, 1 17 7,
0 112 9, 4 2 7, 8 1 7, 5 2 7, 1 1 7, 110 1 7, 140 7 9, 256 1 7, 2 2 7, 0 1 6, 1 45 9, 0 1 0, 0 1 9,
0 1 0, 0 2 9, 0 1 0, 0 2 9, 0 1 0, 0 3 9, 6 27 0, 4 6 0, 11 6 2, 0 2 7, 0 1 1, 0 2 6, 0 1 1, 0 1 5,
0 1 1, 0 2 7, 0 11 9, 0 48 1, 0 21 9, 0 10 2, 0 1 6, 0 2 2, 0 3 1, 0 1 9, 0 101 1, 0 7 9, 0 1 2,
0 1 7, 0 6 9, 0 2 1, 0 2 9, 0 1 7, 0 4 9, 0 2 1, 0 10 3, 0 20 1, 1 2 1, 0 1 9, 0 30 1, 0 27 9,
2 89 1, 0 11 9, 0 1 1, 14 43 0, 0 9 9, 0 2 0, 0 4 7, 0 1 0, 2 1 9, 0 24 0, 0 4 9, 0 1 0, 0 9 9,
0 1 0, 0 3 9, 0 1 0, 0 5 9, 2 15 0, 1 25 0, 0 3 9, 2 1 0, 1 11 1, 5 32 1, 0 2 2, 5 9 9, 0 42 1,
0 24 9, 0 1 2, 0 32 9, 55 1 9, 1 1 9, 4 8 9, 4 1 9, 3 7 9, 10 2 9, 29 1 9, 58 1 9, 4 4 9, 8 1 9,
20 2 9, 14 2 6, 7 1 6, 2 1 9, 2 2 9, 57 1 9, 4 2 9, 4 2 9, 2 3 9, 3 1 9, 30 2 9, 3 1 9, 11 2 9,
57 1 9, 4 5 9, 1 2 9, 4 1 9, 20 2 9, 13 1 6, 8 6 9, 1 1 9, 58 1 9, 2 1 9, 1 4 9, 8 1 9, 5 4 9,
11 2 9, 30 1 9, 61 1 9, 12 1 9, 37 6 7, 0 1 6, 0 1 7, 5 1 9, 3 1 9, 55 1 9, 1 3 9, 5 3 9, 1 4 9,
7 2 9, 11 2 9, 20 7 7, 2 1 9, 58 1 9, 15 2 9, 20 2 9, 28 2 9, 57 2 9, 4 4 9, 8 1 9, 20 2 9, 29 1 9,
72 1 9, 7 3 9, 1 1 9, 90 1 9, 2 7 9, 4 1 6, 7 8 9, 98 1 9, 2 9 9, 11 7 9, 73 2 9, 27 1 9, 1 1 9,
1 1 9, 0 4 7, 51 14 9, 1 5 9, 1 2 9, 5 11 9, 1 36 9, 9 1 9, 102 4 9, 1 6 9, 1 2 9, 2 2 9, 25 2 9,
4 3 9, 16 4 9, 13 1 9, 2 2 9, 6 1 9, 15 1 9, 703 3 9, 48 10 7, 102 1 7, 639 1 10, 26 2 7, 117 3 9,
29 2 9, 30 2 9, 30 2 9, 64 2 9, 1 7 9, 8 1 9, 2 11 9, 7 1 6, 1 1 9, 18 10 7, 6 11 7, 0 3 9, 0 1 8,
0 1 9, 117 2 9, 34 1 9, 118 3 9, 4 2 9, 9 1 9, 6 3 9, 4 1 7, 3 2 7, 152 34 7, 23 2 9, 2 1 9, 58 1 9,
1 7 9, 1 1 9, 1 1 9, 2 8 9, 6 10 9, 2 1 9, 48 65 9, 15 4 9, 48 1 9, 1 5 9, 7 1 9, 40 9 9, 12 2 9,
32 4 9, 2 2 9, 1 3 9, 56 1 9, 1 2 9, 3 1 9, 1 3 9, 58 8 9, 2 2 9, 152 3 9, 1 13 9, 1 7 9, 4 1 9,
6 1 9, 3 2 9, 198 64 9, 445 1 7, 1 3 7, 11 3 7, 13 3 7, 13 3 7, 13 2 7, 1 11 10, 0 3 8, 1 1 0,
0 24 7, 0 7 10, 0 1 5, 0 5 6, 0 15 7, 0 1 5, 0 26 7, 0 1 10, 0 5 8, 1 4 10, 0 6 8, 0 1 3, 3 6 3,
0 2 4, 0 3 7, 1 10 3, 0 2 4, 0 3 7, 17 37 6, 11 33 9, 15 2 7, 1 4 7, 1 2 7, 10 1 7, 1 3 7, 5 6 7,
1 1 7, 1 1 7, 1 1 7, 4 1 6, 11 2 7, 4 5 7, 5 4 7, 2 16 7, 41 3 7, 4 130 7, 0 1 4, 0 1 6, 0 290 7,
69 26 7, 1 148 7, 22 11 7, 21 40 7, 0 20 3, 78 450 7, 1 339 7, 256 628 7, 2 138 7, 229 6 7, 4 3 9,
7 7 7, 127 1 9, 96 32 9, 0 94 7, 2 4 7, 28 26 7, 1 89 7, 12 214 7, 26 16 7, 0 1 10, 0 4 7, 3 25 7,
9 4 9, 2 1 7, 5 2 7, 5 3 7, 89 2 9, 0 2 7, 3 1 7, 90 1 7, 196 38 7, 9 1 7, 45 2 7, 49 16 7, 28 3 7,
50 15 7, 12 4 7, 167 4 7, 99 2 7, 31 1 7, 6592 64 7, 22160 55 7, 326 3 7, 95 4 9, 0 1 7, 0 10 9,
0 2 7, 30 2 9, 80 2 9, 14 34 7, 102 1 7, 121 1 9, 3 1 9, 4 1 9, 25 2 9, 1 4 7, 0 1 9, 11 2 6,
58 4 7, 76 2 9, 26 18 9, 13 1 9, 38 8 9, 25 11 9, 46 3 9, 48 1 9, 2 4 9, 2 2 9, 39 1 9, 67 6 9,
2 2 9, 2 2 9, 12 1 9, 8 1 9, 47 1 9, 51 1 9, 1 3 9, 2 2 9, 5 2 9, 1 1 9, 42 2 9, 8 1 9, 115 2 7,
121 1 9, 2 1 9, 4 1 9, 20271 1 0, 0 1 9, 0 10 0, 0 1 4, 0 13 0, 1 5 0, 1 1 0, 1 2 0, 1 2 0, 1 10 0,
0 115 1, 0 16 7, 0 363 1, 0 18 7, 0 64 1, 0 2 7, 0 54 1, 0 8 7, 32 13 1, 0 3 7, 0 16 9, 0 10 7,
6 16 9, 0 32 7, 0 1 5, 0 1 7, 0 1 5, 1 1 7, 0 1 5, 0 9 7, 0 1 6, 0 2 7, 0 2 4, 0 3 7, 1 1 7, 0 2 6,
0 1 7, 4 5 1, 1 135 1, 2 1 8, 1 2 7, 0 3 6, 0 5 7, 0 1 4, 0 1 5, 0 1 4, 0 2 5, 0 10 3, 0 1 5, 0 6 7,
26 6 7, 26 11 7, 122 2 6, 0 3 7, 0 2 6, 1 7 7, 10 5 7, 259 1 7, 62 77 7, 3 13 7, 3 1 7, 92 1 9,
226 1 9, 0 27 3, 122 5 9, 1157 6 0, 2 1 0, 1 44 0, 1 2 0, 3 1 0, 2 23 0, 1 72 0, 8 9 0, 48 19 0,
1 2 0, 5 33 0, 3 1 7, 0 26 0, 5 27 0, 38 56 0, 4 20 0, 2 47 0, 0 3 9, 1 2 9, 5 4 9, 0 4 0, 1 3 0,
1 29 0, 2 3 9, 4 1 9, 0 9 0, 7 9 0, 7 64 0, 32 37 0, 0 2 9, 4 12 0, 9 54 0, 3 7 7, 0 22 0, 2 27 0,
5 26 0, 7 4 0, 12 7 0, 80 73 0, 55 51 0, 13 51 0, 7 6 0, 0 36 1, 0 4 9, 8 10 2, 6 10 2, 0 28 0,
3 5 9, 0 1 7, 0 23 0, 8 2 0, 208 31 2, 1 42 0, 1 2 9, 0 1 0, 2 2 0, 16 6 1, 3 14 7, 33 6 9, 0 40 0,
8 22 1, 0 11 9, 0 9 1, 22 18 0, 0 4 9, 0 4 0, 38 28 0, 20 23 0, 10 1 9, 54 15 9, 11 20 7, 10 1 9,
2 2 9, 10 3 9, 49 4 9, 2 2 9, 7 1 9, 61 3 9, 36 5 9, 1 8 9, 62 1 9, 12 2 9, 52 9 9, 10 4 9, 2 1 9,
95 3 9, 2 1 9, 1 2 9, 6 1 9, 2 1 9, 157 1 9, 3 8 9, 21 2 9, 57 2 9, 3 1 9, 37 7 9, 3 5 9, 70 6 9,
13 1 9, 1 1 9, 1 1 9, 14 2 9, 85 8 9, 2 3 9, 1 1 9, 23 1 9, 84 6 9, 1 1 9, 4 2 9, 1 2 9, 238 4 9,
6 2 9, 1 2 9, 27 2 9, 85 8 9, 2 1 9, 1 2 9, 31 13 7, 62 1 9, 1 1 9, 2 6 9, 1 1 9, 101 1 9, 1 1 9,
2 4 9, 1 5 9, 259 9 9, 1 2 9, 256 2 9, 1 1 9, 4 1 9, 144 4 9, 2 2 9, 4 1 9, 32 6 9, 2 2 9, 40 6 9,
2 4 9, 8 1 9, 9 6 9, 2 3 9, 46 13 9, 1 2 9, 198 1 9, 1 3 9, 1 1 9, 201 7 9, 1 6 9, 84 22 9, 2 7 9,
1 2 9, 1 2 9, 122 6 9, 3 1 9, 1 2 9, 1 7 9, 1 1 9, 72 2 9, 3 1 9, 1 1 9, 347 2 9, 11 2 9, 52 5 9,
5 1 9, 1 1 9, 23 1 9, 122 8 7, 0 4 6, 0 17 7, 5198 1 9, 6 15 9, 11464 12 9, 3 3 9, 2496 5 9, 59 7 9,
1048 1 9, 63 4 9, 79 1 7, 1 1 9, 19640 2 9, 1 4 8, 3932 214 7, 26 10 3, 0 3 7, 3 436 7, 6 23 7,
1 31 7, 12 3 7, 0 46 9, 2 23 9, 544 3 9, 9 8 8, 0 8 9, 2 7 9, 30 4 9, 59 2 7, 21 66 7, 0 3 9, 0 1 7,
186 87 7, 874 1 7, 25 1 7, 31 1 7, 25 1 7, 31 1 7, 25 1 7, 31 1 7, 25 1 7, 31 1 7, 25 1 7, 10 50 3,
512 55 9, 4 50 9, 8 1 9, 14 1 9, 22 5 9, 1 15 9, 80 29 7, 1251 7 9, 1 17 9, 2 7 9, 1 2 9, 1 5 9,
100 1 9, 160 7 9, 375 1 9, 61 4 9, 15 1 6, 492 4 9, 254 2 9, 243 1 9, 2 1 9, 7 2 9, 5 1 9,
266 197 0, 2 9 0, 0 7 9, 41 68 0, 0 7 9, 0 1 0, 4 10 0, 4 2 0, 785 68 1, 76 61 1, 194 4 1, 1 27 1,
1 2 1, 1 1 1, 2 1 1, 1 10 1, 1 4 1, 1 1 1, 1 1 1, 6 1 1, 4 1 1, 1 1 1, 1 1 1, 1 3 1, 1 2 1, 1 1 1,
2 1 1, 1 1 1, 1 1 1, 1 1 1, 1 1 1, 1 2 1, 1 1 1, 2 4 1, 1 7 1, 1 4 1, 1 4 1, 1 1 1, 1 10 1, 1 17 1,
5 3 1, 1 5 1, 1 17 1, 52 2 7, 270 44 7, 4 100 7, 12 15 7, 2 15 7, 1 15 7, 1 37 7, 10 11 3, 0 5 7,
31 1 7, 58 6 7, 61 2 7, 177 6 7, 154 986 7, 2 17 7, 3 13 7, 3 218 7, 6 12 7, 4 1 7, 15 12 7, 4 56 7,
8 10 7, 6 40 7, 8 30 7, 2 12 7, 4 2 7, 14 9 7, 39 344 7, 8 14 7, 2 13 7, 3 71 7, 1 1 7, 3 18 7,
1 13 7, 3 12 7, 5 147 7, 1 92 7, 0 10 3, 0 1 7, 787462 1 8, 30 96 8, 128 240 9")

end Greenhouse.Domain.Direction
