/-! Characters: tables of those beyond ASCII, and the classes of characters. -/

namespace ParallelFortran.Text

def rangesOf : Nat → List Nat → List (Nat × Nat)
  | start, gap :: length :: runs =>
    (start + gap, start + gap + length - 1) :: rangesOf (start + gap + length) runs
  | _, _ => []

def printableRuns : List Nat := [
  161,12,1,714,2,6,4,7,1,1,1,20,1,397,1,38,2,50,2,3,1,55,8,27,4,6,17,22,1,192,1,48,2,59,2,101,14,59,
  2,49,2,15,1,28,2,1,1,11,5,31,9,74,1,161,1,8,2,2,2,22,1,7,1,1,3,4,2,9,2,2,2,4,8,1,4,2,1,5,2,25,2,3,
  1,6,4,2,2,22,1,7,1,2,1,2,1,2,2,1,1,5,4,2,2,3,3,1,7,4,1,1,7,17,10,3,1,9,1,3,1,22,1,7,1,2,1,5,2,10,
  1,3,1,3,2,1,15,4,2,12,7,7,1,3,1,8,2,2,2,22,1,7,1,2,1,5,2,9,2,2,2,3,7,3,4,2,1,5,2,18,10,2,1,6,3,3,
  1,4,3,2,1,1,1,2,3,2,3,3,3,12,4,5,3,3,1,4,2,1,6,1,14,21,5,13,1,3,1,23,1,16,2,9,1,3,1,4,7,2,1,3,2,1,
  2,4,2,10,7,22,1,3,1,23,1,10,1,5,2,9,1,3,1,4,7,2,6,2,1,4,2,10,1,2,13,13,1,3,1,51,1,3,1,6,4,16,2,26,
  1,3,1,18,3,24,1,9,1,1,2,7,3,1,4,6,1,1,1,8,6,10,2,3,12,58,4,29,37,2,1,1,1,5,1,24,1,1,1,23,2,5,1,1,
  1,6,2,10,2,4,32,72,1,36,4,39,1,36,1,15,1,13,37,198,1,1,5,1,2,377,1,4,2,7,1,1,1,4,2,41,1,4,2,33,1,
  4,2,7,1,1,1,4,2,15,1,57,1,4,2,67,2,32,3,26,6,86,2,6,2,640,1,28,3,89,7,22,9,24,9,20,12,13,1,3,1,2,
  12,94,2,10,6,10,6,14,1,11,6,89,7,43,5,70,10,31,1,12,4,12,4,1,3,42,2,5,11,44,4,26,6,11,3,62,2,65,1,
  29,2,11,6,10,6,14,2,31,49,77,3,47,1,116,8,60,3,15,3,60,7,43,2,11,8,43,5,534,2,6,2,38,2,6,2,8,1,1,
  1,1,1,1,1,31,2,53,1,15,1,14,2,6,1,19,2,3,1,9,17,24,8,47,17,2,2,27,1,13,3,33,15,33,15,140,4,663,25,
  11,21,1812,2,32,1,349,5,45,1,1,5,1,2,56,7,2,14,24,9,7,1,7,1,7,1,7,1,7,1,7,1,7,1,7,1,126,34,26,1,
  89,12,214,26,12,5,63,1,86,2,103,5,43,1,94,1,84,12,47,1,29293,3,55,9,348,20,184,8,203,5,2,1,1,1,5,
  24,59,3,10,6,56,8,70,8,12,6,116,11,30,3,78,1,11,4,33,1,55,9,14,2,10,2,103,24,28,10,6,2,6,2,6,9,7,
  1,7,1,60,4,126,2,10,6,11172,12,23,4,49,8452,366,2,106,38,7,12,5,5,26,1,5,1,1,1,2,1,2,1,125,16,445,
  2,54,7,1,32,42,6,51,1,19,1,4,4,5,1,135,4,190,3,6,2,6,2,6,2,3,3,7,1,7,13,2,2,12,1,26,1,19,1,2,1,15,
  2,14,34,123,5,3,4,45,3,88,1,13,3,1,47,46,130,29,3,49,15,28,4,36,9,30,5,43,5,30,1,37,4,14,42,158,2,
  10,6,36,4,36,4,40,8,52,11,12,1,15,1,7,1,2,1,11,1,15,1,7,1,2,67,311,9,22,10,8,24,6,1,42,1,9,69,6,2,
  1,1,44,1,2,3,1,2,23,1,72,8,9,48,19,1,2,5,33,3,27,5,1,64,56,4,20,2,50,1,2,5,8,1,3,1,29,2,3,4,10,7,
  9,7,64,32,39,4,12,9,54,3,29,2,27,5,26,7,4,12,7,80,73,55,51,13,51,7,46,8,10,294,31,1,42,1,3,2,2,78,
  40,8,42,22,26,38,28,20,23,9,78,4,36,9,62,1,5,13,25,7,10,6,53,1,18,8,39,9,96,1,20,11,18,1,44,65,7,
  1,1,1,4,1,15,1,11,6,59,5,10,6,4,1,8,2,2,2,22,1,7,1,2,1,5,1,10,2,2,2,3,2,1,6,1,5,7,2,7,3,5,139,92,
  1,5,30,72,8,10,166,54,2,38,34,69,11,10,6,13,19,58,6,10,54,27,2,15,4,23,185,60,100,83,12,8,2,1,2,8,
  1,2,1,30,1,2,2,12,9,10,70,8,2,46,2,11,27,72,8,83,13,73,263,9,1,45,1,14,10,29,3,32,2,22,1,14,73,7,
  1,2,1,44,3,1,1,2,1,9,8,10,6,6,1,2,1,37,1,2,1,6,7,10,310,25,183,1,15,50,13,923,102,111,1,5,11,196,
  2636,99,13,1071,4049,583,8633,569,7,31,1,10,4,81,1,10,6,30,2,6,10,70,10,10,1,7,1,21,5,19,688,91,
  101,75,4,57,7,17,64,5,11,2,14,6136,8,1238,42,9,8935,4,1,7,1,2,1,291,45,3,17,4,8,396,2308,107,5,13,
  3,9,7,10,2,4,4704,46,2,23,9,116,60,246,10,39,2,74,8,112,21,70,154,20,12,87,9,25,135,85,1,71,1,2,2,
  1,2,2,2,4,1,12,1,1,1,7,1,65,1,4,2,8,1,7,1,28,1,4,1,5,1,1,3,7,1,340,2,292,2,702,15,5,1,15,1104,31,
  225,7,1,17,2,7,1,2,1,5,213,45,3,14,2,10,4,2,320,31,17,58,5,1,1248,7,1,4,1,2,1,15,1,197,2,16,41,76,
  4,10,4,2,785,68,76,61,194,4,1,27,1,2,1,1,2,1,1,10,1,4,1,1,1,1,6,1,4,1,1,1,1,1,1,3,1,2,1,1,2,1,1,1,
  1,1,1,1,1,1,1,2,1,1,2,4,1,7,1,4,1,4,1,1,1,10,1,17,5,3,1,5,1,17,52,2,270,44,4,100,12,15,2,15,1,15,
  1,37,10,174,56,29,13,44,4,9,7,2,14,6,154,984,5,16,3,13,3,116,12,89,7,12,4,1,15,12,4,56,8,10,6,40,
  8,30,2,2,78,340,12,14,2,5,3,5,3,7,9,29,3,11,5,6,10,10,6,8,8,7,9,147,1,55,37,10,1030,42720,32,4153,
  7,222,2,5762,14,7473,3103,542,1506,4939,716213,240]

def printableRanges : Array (Nat × Nat) := (rangesOf 0 printableRuns).toArray

def wordRuns : List Nat := [
  170,1,7,2,1,1,3,2,1,3,1,23,1,31,1,458,4,12,14,5,7,1,1,1,129,5,1,2,2,4,1,1,6,1,1,3,1,1,1,20,1,83,1,
  139,8,166,1,38,2,1,6,41,71,27,4,4,45,43,21,10,4,2,1,99,1,1,15,2,7,15,2,1,16,1,1,30,29,89,11,1,14,
  43,9,2,4,1,5,22,4,1,9,1,3,1,23,25,7,11,5,24,1,6,17,42,58,54,3,1,18,1,7,10,4,10,1,16,4,8,2,2,2,22,
  1,7,1,1,3,4,3,1,16,1,13,2,1,3,4,12,2,6,2,1,8,6,4,2,2,22,1,7,1,2,1,2,1,2,31,4,1,1,7,10,2,3,16,9,1,
  3,1,22,1,7,1,2,1,5,3,1,18,1,15,2,4,10,9,1,11,8,2,2,2,22,1,7,1,2,1,5,3,1,30,2,1,3,4,10,1,7,11,1,1,
  6,3,3,1,4,3,2,1,1,1,2,3,2,3,3,3,12,22,1,21,13,18,8,1,3,1,23,1,16,3,1,26,3,2,1,2,2,4,10,8,7,1,1,4,
  8,1,3,1,23,1,10,1,5,3,1,31,2,1,2,4,10,1,2,17,9,1,3,1,41,2,1,16,1,5,3,1,10,4,19,1,6,5,18,3,24,1,9,
  1,1,2,7,31,10,17,48,1,2,12,7,9,10,39,2,1,1,1,5,1,24,1,1,1,10,1,2,9,1,2,5,1,1,9,10,2,4,32,1,31,20,
  12,8,1,36,27,5,115,43,20,11,6,6,4,4,3,1,3,2,7,3,4,13,12,1,1,10,6,38,1,1,5,1,2,43,1,333,1,4,2,7,1,
  1,1,4,2,41,1,4,2,33,1,4,2,7,1,1,1,4,2,15,1,57,1,4,2,67,14,20,3,16,16,86,2,6,3,620,2,17,1,26,5,75,
  3,11,7,18,13,19,14,18,14,13,1,3,15,52,35,1,4,1,3,10,6,10,22,10,6,89,7,5,2,34,1,1,5,70,10,31,39,40,
  2,5,11,44,4,26,6,11,37,23,9,53,43,10,6,10,13,1,93,47,17,8,3,10,41,30,13,56,26,36,28,10,3,49,2,9,7,
  43,2,3,41,4,1,6,1,2,3,1,5,192,64,278,2,6,2,38,2,6,2,8,1,1,1,1,1,1,1,31,2,53,1,7,1,1,3,3,1,7,3,4,2,
  6,4,13,5,3,1,7,115,2,2,6,5,11,6,13,101,1,4,1,2,10,1,1,3,5,6,1,1,1,1,1,1,4,1,11,2,4,5,5,4,1,1,58,
  726,60,78,22,630,30,1132,229,6,4,3,2,9,1,2,38,1,1,5,1,2,56,7,1,16,23,9,7,1,7,1,7,1,7,1,7,1,7,1,7,
  1,7,80,1,469,3,25,9,7,5,2,5,4,86,6,3,1,90,1,4,5,43,1,94,3,4,10,32,48,16,32,10,30,8,1,15,32,10,39,
  15,320,6592,64,22157,67,46,2,269,3,28,20,47,16,31,2,80,39,9,2,103,2,64,5,2,1,1,1,5,24,16,1,3,1,4,
  1,23,13,6,10,52,14,50,28,10,24,6,3,1,1,2,1,38,10,23,25,29,7,47,28,11,6,5,1,25,1,41,23,3,1,8,4,10,
  6,23,3,1,3,50,1,1,3,2,2,5,2,1,1,1,24,3,2,11,7,3,12,6,2,6,2,6,9,7,1,7,1,43,1,14,6,115,13,10,6,
  11172,12,23,4,49,8452,366,2,106,38,7,12,5,5,1,1,10,1,13,1,5,1,1,1,2,1,2,1,108,33,363,18,64,2,54,
  40,12,116,5,1,135,19,10,7,26,6,26,11,89,3,6,2,6,2,6,2,3,35,12,1,26,1,19,1,2,1,15,2,14,34,123,12,
  45,12,57,17,2,244,29,3,49,16,27,4,36,9,30,5,38,10,30,2,36,4,8,1,5,42,158,2,10,6,36,4,36,4,40,8,52,
  12,11,1,15,1,7,1,2,1,11,1,15,1,7,1,2,67,311,9,22,10,8,24,6,1,42,1,9,69,6,2,1,1,44,1,2,3,1,2,23,2,
  31,2,38,8,9,48,19,1,2,5,33,4,26,70,56,4,20,2,47,15,4,1,3,1,29,10,9,23,31,1,32,32,8,1,28,6,5,16,54,
  10,22,2,27,5,26,23,7,80,73,55,51,13,51,7,42,12,10,294,31,1,42,6,2,78,40,8,22,11,4,27,18,46,28,20,
  23,12,53,26,30,1,2,2,1,13,45,32,25,7,10,9,36,15,10,4,1,2,1,8,35,3,1,12,48,14,4,11,11,1,1,4,20,11,
  18,1,25,84,7,1,1,1,4,1,15,1,10,7,47,17,10,11,8,2,2,2,22,1,7,1,2,1,5,3,1,18,1,12,5,158,53,18,4,5,
  10,5,3,30,48,20,2,1,1,8,10,166,47,41,4,36,48,20,1,11,10,38,43,13,1,7,10,54,27,21,12,4,7,185,44,
  116,83,12,8,2,1,2,8,1,2,1,24,15,1,1,1,14,10,70,8,2,39,16,1,1,1,28,1,10,40,7,1,21,1,11,46,19,1,18,
  73,263,9,1,37,17,1,15,29,5,30,112,7,1,2,1,38,21,1,9,10,6,6,1,2,1,32,14,1,7,10,310,19,189,1,15,21,
  43,922,102,111,17,196,2636,97,15,1071,4049,583,8633,569,7,31,1,10,6,79,1,10,6,30,18,48,16,4,12,10,
  1,7,1,21,5,19,688,87,105,75,5,1,66,13,64,2,1,1,28,6136,8,1238,42,9,8935,4,1,7,1,2,1,291,45,3,17,4,
  8,396,2308,107,5,13,3,9,7,10,5702,20,108,25,135,85,1,71,1,2,2,1,2,2,2,4,1,12,1,1,1,7,1,65,1,4,2,8,
  1,7,1,28,1,4,1,5,1,1,3,7,1,340,2,25,1,25,1,31,1,25,1,31,1,25,1,31,1,25,1,31,1,25,1,8,2,50,1792,31,
  481,45,10,7,2,10,4,1,321,30,18,44,4,10,1254,7,1,4,1,2,1,15,1,197,2,9,48,68,7,1,4,10,791,59,1,3,1,
  4,76,45,1,15,194,4,1,27,1,2,1,1,2,1,1,10,1,4,1,1,1,1,6,1,4,1,1,1,1,1,1,3,1,2,1,1,2,1,1,1,1,1,1,1,
  1,1,1,2,1,1,2,4,1,7,1,4,1,4,1,1,1,10,1,17,5,3,1,5,1,17,580,13,2787,10,1030,42720,32,4153,7,222,2,
  5762,14,7473,3103,542,1506,4939]

def wordRanges : Array (Nat × Nat) := (rangesOf 0 wordRuns).toArray

def runsOf : Int → List Int → List (Nat × Nat × Nat × Int)
  | last, gap :: length :: step :: shift :: runs =>
    let first := last + gap
    (first.toNat, (first + length).toNat, step.toNat, shift) :: runsOf (first + length) runs
  | _, _ => []

def caseRuns : List Int := [
  192,22,1,32,2,6,1,32,34,46,2,1,4,4,2,1,3,14,2,1,3,44,2,1,2,0,1,-121,1,4,2,1,4,0,1,210,1,2,2,1,2,0,
  1,206,1,0,1,1,2,1,1,205,1,0,1,1,3,0,1,79,1,0,1,202,1,0,1,203,1,0,1,1,2,0,1,205,1,0,1,207,2,0,1,
  211,1,0,1,209,1,0,1,1,4,0,1,211,1,0,1,213,2,0,1,214,1,4,2,1,2,0,1,218,1,0,1,1,2,0,1,218,3,0,1,1,2,
  0,1,218,1,0,1,1,2,1,1,217,1,2,2,1,2,0,1,219,1,0,1,1,4,0,1,1,8,0,1,2,1,0,1,1,2,0,1,2,1,0,1,1,2,0,1,
  2,1,16,2,1,3,16,2,1,3,0,1,2,1,2,2,1,2,0,1,-97,1,0,1,-56,1,38,2,1,2,0,1,-130,2,16,2,1,8,0,1,10795,
  1,0,1,1,2,0,1,-163,1,0,1,10792,3,0,1,1,2,0,1,-195,1,0,1,69,1,0,1,71,1,8,2,1,290,2,2,1,4,0,1,1,9,0,
  1,116,7,0,1,38,2,2,1,37,2,0,1,64,2,1,1,63,2,16,1,32,2,8,1,32,36,0,1,8,9,22,2,1,6,0,1,-60,3,0,1,1,
  2,0,1,-7,1,0,1,1,3,2,1,-130,1,15,1,80,1,31,1,32,49,32,2,1,10,52,2,1,2,0,1,15,1,12,2,1,3,94,2,1,3,
  37,1,48,2890,37,1,7264,2,0,1,7264,6,0,1,7264,723,79,1,38864,1,5,1,8,2203,42,1,-3008,3,2,1,-3008,
  321,148,2,1,10,0,1,-7615,2,94,2,1,10,7,1,-8,9,5,1,-8,11,7,1,-8,9,7,1,-8,9,5,1,-8,12,6,2,-8,9,7,1,
  -8,25,7,1,-8,9,7,1,-8,9,7,1,-8,9,1,1,-8,1,1,1,-74,1,0,1,-9,12,3,1,-86,1,0,1,-9,12,1,1,-8,1,1,1,
  -100,13,1,1,-8,1,1,1,-112,1,0,1,-7,12,1,1,-128,1,1,1,-126,1,0,1,-9,298,0,1,-7517,4,0,1,-8383,1,0,
  1,-8262,7,0,1,28,46,15,1,16,20,0,1,1,819,25,1,26,1841,47,1,48,49,0,1,1,2,0,1,-10743,1,0,1,-3814,1,
  0,1,-10727,3,4,2,1,2,0,1,-10780,1,0,1,-10749,1,0,1,-10783,1,0,1,-10782,2,0,1,1,3,0,1,1,9,1,1,
  -10815,1,98,2,1,9,2,2,1,5,0,1,1,31054,44,2,1,20,26,2,1,136,12,2,1,4,60,2,1,11,2,2,1,2,0,1,-35332,
  1,8,2,1,5,0,1,1,2,0,1,-42280,3,2,2,1,4,18,2,1,2,0,1,-42308,1,0,1,-42319,1,0,1,-42315,1,0,1,-42305,
  1,0,1,-42308,2,0,1,-42258,1,0,1,-42282,1,0,1,-42261,1,0,1,928,1,14,2,1,2,0,1,-48,1,0,1,-42307,1,0,
  1,-35384,1,2,2,1,7,0,1,1,6,2,2,1,29,0,1,1,22316,25,1,32,1222,39,1,40,137,35,1,40,157,10,1,39,2,14,
  1,39,2,6,1,39,2,1,1,39,1771,50,1,64,3054,31,1,32,21889,31,1,32,31393,33,1,34]

def lowerRuns : Array (Nat × Nat × Nat × Int) := (runsOf 0 caseRuns).toArray

/-- Some letters have a capital of their own; all others take their run back. -/
def upperRuns : Array (Nat × Nat × Nat × Int) := #[
  (181,181,1,743), (305,305,1,-232), (383,383,1,-300), (453,453,1,-1), (456,456,1,-1),
  (459,459,1,-1), (498,498,1,-1), (837,837,1,84), (962,962,1,-31), (976,976,1,-62),
  (977,977,1,-57), (981,981,1,-47), (982,982,1,-54), (1008,1008,1,-86), (1009,1009,1,-80),
  (1013,1013,1,-96), (7296,7296,1,-6254), (7297,7297,1,-6253), (7298,7298,1,-6244),
  (7299,7300,1,-6242), (7301,7301,1,-6243), (7302,7302,1,-6236), (7303,7303,1,-6181),
  (7304,7304,1,35266), (7835,7835,1,-59), (8126,8126,1,-7205)] ++
  lowerRuns.map fun (first, last, step, shift) =>
    ((first + shift).toNat, (last + shift).toNat, step, -shift)

/-- Letters whose capitals are written with several characters. The capitals of the vowels with an iota
below stand in rows of eight. -/
def upperSequences : Array (Nat × List Nat) := #[
  (223,[83,83]), (329,[700,78]), (496,[74,780]), (912,[921,776,769]), (944,[933,776,769]),
  (1415,[1333,1362]), (7830,[72,817]), (7831,[84,776]), (7832,[87,778]), (7833,[89,778]),
  (7834,[65,702]), (8016,[933,787]), (8018,[933,787,768]), (8020,[933,787,769]),
  (8022,[933,787,834]), (8114,[8122,921]), (8115,[913,921]), (8116,[902,921]), (8118,[913,834]),
  (8119,[913,834,921]), (8124,[913,921]), (8130,[8138,921]), (8131,[919,921]), (8132,[905,921]),
  (8134,[919,834]), (8135,[919,834,921]), (8140,[919,921]), (8146,[921,776,768]),
  (8147,[921,776,769]), (8150,[921,834]), (8151,[921,776,834]), (8162,[933,776,768]),
  (8163,[933,776,769]), (8164,[929,787]), (8166,[933,834]), (8167,[933,776,834]),
  (8178,[8186,921]), (8179,[937,921]), (8180,[911,921]), (8182,[937,834]), (8183,[937,834,921]),
  (8188,[937,921]), (64256,[70,70]), (64257,[70,73]), (64258,[70,76]), (64259,[70,70,73]),
  (64260,[70,70,76]), (64261,[83,84]), (64262,[83,84]), (64275,[1348,1350]), (64276,[1348,1333]),
  (64277,[1348,1339]), (64278,[1358,1350]), (64279,[1348,1341])] ++
  #[(8064, 7944), (8072, 7944), (8080, 7976), (8088, 7976), (8096, 8040), (8104, 8040)].flatMap
    fun (row, capitals) => (Array.range 8).map fun place => (row + place, [capitals + place, 921])

def letterVariants : Array (Nat × Nat) := #[
  (305,105), (383,115), (953,837), (956,181), (963,962), (976,946), (977,952), (981,966), (982,960),
  (1008,954), (1009,961), (1013,949), (7296,1074), (7297,1076), (7298,1086), (7299,1089),
  (7300,1090), (7301,1090), (7302,1098), (7303,1123), (7835,7777), (8126,837), (8147,912),
  (8163,944), (42571,7304), (64262,64261)]

/-! Classes and case of single characters. -/

def inRanges (ranges : Array (Nat × Nat)) (code : Nat) : Bool :=
  ranges.any fun range => decide (range.1 ≤ code) && decide (code ≤ range.2)

variable (letter : Char)

def isBlank : Bool :=
  let code := letter.toNat
  (9 ≤ code && code ≤ 13) || (28 ≤ code && code ≤ 32) || code == 133 || code == 160 ||
    code == 5760 || (8192 ≤ code && code ≤ 8202) || code == 8232 || code == 8233 ||
    code == 8239 || code == 8287 || code == 12288

def isDigit : Bool :=
  '0' ≤ letter && letter ≤ '9'

def isWord : Bool :=
  if letter.toNat < 128 then letter.isAlphanum || letter == '_'
  else inRanges wordRanges letter.toNat

def isPrintable : Bool :=
  if letter.toNat < 128 then 32 ≤ letter.toNat && letter.toNat < 127
  else inRanges printableRanges letter.toNat

def shiftCase (runs : Array (Nat × Nat × Nat × Int)) (letter : Char) : Char :=
  let code := letter.toNat
  match runs.find? fun run =>
      decide (run.1 ≤ code) && decide (code ≤ run.2.1) && (code - run.1) % run.2.2.1 == 0 with
  | some run => Char.ofNat (Int.toNat (code + run.2.2.2))
  | none => letter

/-- The lower case of a single character; the dotted capital `İ` gives a plain `i`. -/
def lowerChar : Char :=
  if letter.toNat < 128 then letter.toLower
  else if letter.toNat == 304 then 'i'
  else shiftCase lowerRuns letter

def lowerLetters : List Char :=
  if letter.toNat == 304 then ['i', Char.ofNat 775] else [lowerChar letter]

def upperLetters : List Char :=
  if letter.toNat < 128 then [letter.toUpper]
  else
    match upperSequences.find? fun entry => entry.1 == letter.toNat with
    | some entry => entry.2.map Char.ofNat
    | none => [shiftCase upperRuns letter]

def foldCase : Char :=
  let lowered := lowerChar letter
  if lowered.toNat < 128 then lowered else
  match letterVariants.find? fun entry => entry.1 == lowered.toNat with
  | some entry => Char.ofNat entry.2
  | none => lowered

def lower (text : String) : String :=
  String.ofList (text.toList.flatMap lowerLetters)

def upper (text : String) : String :=
  String.ofList (text.toList.flatMap upperLetters)

end ParallelFortran.Text
