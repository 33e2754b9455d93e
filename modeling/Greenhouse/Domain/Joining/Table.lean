import Greenhouse.Text.CodePoints

/-!
# Greenhouse.Domain.Joining.Table

How cursive letters join their neighbours.
-/

namespace Greenhouse.Domain.Joining

open Greenhouse.Text

/-- The joining types: 0 transparent, 1 left-joining, 2 right-joining, 3 dual-joining,
4 join-causing. -/
def classes : CodeClasses := .ofText "
173 1 0, 594 112 0, 275 7 0, 263 45 0, 1 1 0, 1 2 0, 1 2 0, 1 3 0, 70 11 0, 1 1 0, 3 1 3, 1 4 2,
0 1 3, 0 1 2, 0 1 3, 0 1 2, 0 5 3, 0 4 2, 0 13 3, 0 1 4, 0 7 3, 0 1 2, 0 2 3, 0 21 0, 14 2 3, 0 1 0,
0 3 2, 1 3 2, 0 16 3, 0 18 2, 0 38 3, 0 1 2, 0 2 3, 0 9 2, 0 1 3, 0 1 2, 0 1 3, 0 1 2, 0 2 3, 0 2 2,
1 1 2, 0 7 0, 2 6 0, 2 2 0, 1 4 0, 0 2 2, 10 3 3, 2 1 3, 15 1 0, 0 1 2, 0 1 0, 0 3 3, 0 5 2, 0 4 3,
0 1 2, 0 9 3, 0 1 2, 0 1 3, 0 1 2, 0 1 3, 0 1 2, 0 2 3, 0 1 2, 0 27 0, 2 1 2, 0 11 3, 0 3 2, 0 15 3,
0 2 2, 0 4 3, 0 1 2, 0 1 3, 0 2 2, 0 3 3, 0 2 2, 0 6 3, 38 11 0, 25 33 3, 0 9 0, 6 1 4, 2 1 0,
24 4 0, 1 9 0, 1 3 0, 1 5 0, 18 1 2, 0 5 3, 0 2 2, 0 1 3, 0 1 2, 0 10 3, 0 1 2, 0 1 3, 0 3 2, 0 3 0,
4 1 3, 1 4 3, 1 1 2, 0 1 3, 0 2 2, 5 19 2, 0 3 4, 0 1 3, 2 5 3, 0 1 2, 0 1 3, 7 9 0, 0 10 3, 0 3 2,
1 1 2, 0 2 3, 0 2 2, 0 6 3, 0 1 2, 0 15 3, 1 24 0, 1 32 0, 55 1 0, 1 1 0, 4 8 0, 4 1 0, 3 7 0,
10 2 0, 29 1 0, 58 1 0, 4 4 0, 8 1 0, 20 2 0, 26 1 0, 2 2 0, 57 1 0, 4 2 0, 4 2 0, 2 3 0, 3 1 0,
30 2 0, 3 1 0, 11 2 0, 57 1 0, 4 5 0, 1 2 0, 4 1 0, 20 2 0, 22 6 0, 1 1 0, 58 1 0, 2 1 0, 1 4 0,
8 1 0, 5 4 0, 11 2 0, 30 1 0, 61 1 0, 12 1 0, 50 1 0, 3 1 0, 55 1 0, 1 3 0, 5 3 0, 1 4 0, 7 2 0,
11 2 0, 29 1 0, 58 1 0, 2 1 0, 6 1 0, 5 2 0, 20 2 0, 28 2 0, 57 2 0, 4 4 0, 8 1 0, 20 2 0, 29 1 0,
72 1 0, 7 3 0, 1 1 0, 90 1 0, 2 7 0, 12 8 0, 98 1 0, 2 9 0, 11 7 0, 73 2 0, 27 1 0, 1 1 0, 1 1 0,
55 14 0, 1 5 0, 1 2 0, 5 11 0, 1 36 0, 9 1 0, 102 4 0, 1 6 0, 1 2 0, 2 2 0, 25 2 0, 4 3 0, 16 4 0,
13 1 0, 2 2 0, 6 1 0, 15 1 0, 703 3 0, 946 3 0, 29 2 0, 30 2 0, 30 2 0, 64 2 0, 1 7 0, 8 1 0,
2 11 0, 9 1 0, 41 1 3, 2 1 4, 0 3 0, 1 1 0, 16 89 3, 12 2 0, 0 34 3, 0 1 0, 0 1 3, 117 3 0, 4 2 0,
9 1 0, 6 3 0, 219 2 0, 2 1 0, 58 1 0, 1 7 0, 1 1 0, 1 1 0, 2 8 0, 6 10 0, 2 1 0, 48 65 0, 15 4 0,
48 1 0, 1 5 0, 7 1 0, 40 9 0, 12 2 0, 32 4 0, 2 2 0, 1 3 0, 56 1 0, 1 2 0, 3 1 0, 1 3 0, 58 8 0,
2 2 0, 152 3 0, 1 13 0, 1 7 0, 4 1 0, 6 1 0, 3 2 0, 198 64 0, 523 1 0, 1 1 4, 0 2 0, 26 5 0, 49 5 0,
5 6 0, 96 33 0, 3070 3 0, 141 1 0, 96 32 0, 554 4 0, 107 2 0, 30164 4 0, 1 10 0, 32 2 0, 80 2 0,
272 1 0, 3 1 0, 4 1 0, 25 2 0, 5 1 0, 19 50 3, 0 1 1, 81 2 0, 26 18 0, 13 1 0, 38 8 0, 25 11 0,
46 3 0, 48 1 0, 2 4 0, 2 2 0, 39 1 0, 67 6 0, 2 2 0, 2 2 0, 12 1 0, 8 1 0, 47 1 0, 51 1 0, 1 3 0,
2 2 0, 5 2 0, 1 1 0, 42 2 0, 8 1 0, 238 1 0, 2 1 0, 4 1 0, 20272 1 0, 737 16 0, 16 16 0, 207 1 0,
249 3 0, 513 1 0, 226 1 0, 149 5 0, 1670 3 0, 1 2 0, 5 4 0, 40 3 0, 4 1 0, 128 5 3, 0 1 2, 1 1 2,
1 2 2, 2 1 1, 0 5 2, 0 4 3, 0 1 1, 0 5 3, 0 1 2, 0 3 3, 0 1 2, 2 1 2, 0 2 0, 4 4 3, 0 1 2, 144 1 3,
0 1 2, 0 1 3, 0 3 2, 0 3 3, 0 1 2, 0 2 3, 0 1 2, 0 1 3, 0 2 2, 0 1 3, 0 1 2, 23 4 2, 0 2 3, 337 1 1,
0 33 3, 0 1 2, 0 1 3, 0 4 0, 65 5 0, 317 2 0, 21 1 2, 0 2 3, 1 2 3, 50 6 0, 48 3 3, 0 1 2, 0 17 3,
1 11 0, 0 3 3, 0 1 2, 27 4 3, 0 2 2, 0 12 3, 0 4 0, 42 1 3, 1 2 3, 0 3 2, 1 1 3, 0 2 2, 0 2 3,
0 1 2, 0 2 3, 1 1 3, 0 2 2, 0 1 3, 4 1 2, 0 1 3, 0 1 1, 53 1 0, 54 15 0, 41 1 0, 2 2 0, 10 3 0,
49 4 0, 2 2 0, 7 1 0, 61 3 0, 36 5 0, 1 8 0, 62 1 0, 12 2 0, 52 9 0, 10 4 0, 2 1 0, 95 3 0, 2 1 0,
1 2 0, 6 1 0, 2 1 0, 157 1 0, 3 8 0, 21 2 0, 57 2 0, 3 1 0, 37 7 0, 3 5 0, 70 6 0, 13 1 0, 1 1 0,
1 1 0, 14 2 0, 85 8 0, 2 3 0, 1 1 0, 23 1 0, 84 6 0, 1 1 0, 4 2 0, 1 2 0, 238 4 0, 6 2 0, 1 2 0,
27 2 0, 85 8 0, 2 1 0, 1 2 0, 106 1 0, 1 1 0, 2 6 0, 1 1 0, 101 1 0, 1 1 0, 2 4 0, 1 5 0, 259 9 0,
1 2 0, 256 2 0, 1 1 0, 4 1 0, 144 4 0, 2 2 0, 4 1 0, 32 10 0, 40 6 0, 2 4 0, 8 1 0, 9 6 0, 2 3 0,
46 13 0, 1 2 0, 198 1 0, 1 3 0, 1 1 0, 201 7 0, 1 6 0, 1 1 0, 82 22 0, 2 7 0, 1 2 0, 1 2 0, 122 6 0,
3 1 0, 1 2 0, 1 7 0, 1 1 0, 72 2 0, 3 1 0, 1 1 0, 347 2 0, 11 2 0, 52 5 0, 5 1 0, 1 1 0, 23 1 0,
5333 17 0, 6 15 0, 11464 12 0, 3 3 0, 2496 5 0, 59 7 0, 1048 1 0, 63 4 0, 81 1 0, 19640 2 0, 1 4 0,
4700 46 0, 2 23 0, 544 3 0, 9 16 0, 2 7 0, 30 4 0, 148 3 0, 1979 55 0, 4 50 0, 8 1 0, 14 1 0,
22 5 0, 1 15 0, 1360 7 0, 1 17 0, 2 7 0, 1 2 0, 1 5 0, 100 1 0, 160 7 0, 375 1 0, 61 4 0, 508 4 0,
254 2 0, 243 1 0, 2 1 0, 7 2 0, 5 1 0, 474 7 0, 41 68 3, 0 8 0, 792245 1 0, 30 96 0, 128 240 0"

end Greenhouse.Domain.Joining
