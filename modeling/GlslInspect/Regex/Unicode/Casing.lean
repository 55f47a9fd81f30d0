/-
Letters that differ in case only.

Such letters form an orbit: the capital letter, the small one, and further forms that are the same by simple case
folding. An orbit of two is one of a run: letters at equal steps, each with its partner at the same distance.
-/
import GlslInspect.Regex.Unicode.CodeSet

namespace GlslInspect.Casing

/-- runs of orbits of two letters: the first letter, how many there are, the step between them, and the distance of
each to its partner -/
def pairTable : String :=
  "65,10,1,32 76,8,2,32 77,3,2,32 85,3,2,32 192,16,2,32 193,2,2,32 199,8,2,32 217,3,2,32 223,1,1,7615 255,1,1,121
    256,24,2,1 306,3,2,1 313,8,2,1 330,23,2,1 377,3,2,1 384,1,1,195 385,1,1,210 386,2,2,1 390,1,1,206 391,1,1,1
    393,2,1,205 395,1,1,1 398,1,1,79 399,1,1,202 400,1,1,203 401,1,1,1 403,1,1,205 404,1,1,207 405,1,1,97
    406,1,1,211 407,1,1,209 408,1,1,1 410,1,1,163 411,1,1,42561 412,1,1,211 413,1,1,213 414,1,1,130 415,1,1,214
    416,3,2,1 422,1,1,218 423,1,1,1 425,1,1,218 428,1,1,1 430,1,1,218 431,1,1,1 433,2,1,217 435,2,2,1 439,1,1,219
    440,1,1,1 444,1,1,1 447,1,1,56 461,8,2,1 478,9,2,1 500,1,1,1 504,20,2,1 546,9,2,1 570,1,1,10795 571,1,1,1
    574,1,1,10792 575,2,1,10815 577,1,1,1 580,1,1,69 581,1,1,71 582,5,2,1 592,1,1,10783 593,1,1,10780
    594,1,1,10782 604,1,1,42319 609,1,1,42315 612,1,1,42343 613,1,1,42280 614,1,1,42308 618,1,1,42308
    619,1,1,10743 620,1,1,42305 625,1,1,10749 637,1,1,10727 642,1,1,42307 647,1,1,42282 669,1,1,42261
    670,1,1,42258 880,2,2,1 886,1,1,1 891,3,1,130 895,1,1,116 902,1,1,38 904,3,1,37 908,1,1,64 910,2,1,63
    912,1,1,7235 913,2,2,32 916,2,2,32 919,1,1,32 923,3,2,32 926,1,1,32 932,2,1,32 935,2,1,32 938,2,1,32
    944,1,1,7219 975,1,1,8 984,12,2,1 1010,1,1,7 1015,1,1,1 1018,1,1,1 1024,16,1,80 1040,2,1,32 1043,7,2,32
    1046,4,2,32 1056,1,1,32 1059,7,1,32 1067,5,1,32 1120,1,1,1 1124,15,2,1 1162,27,2,1 1216,1,1,15 1217,7,2,1
    1232,48,2,1 1329,38,1,48 4256,38,1,7264 4295,1,1,7264 4301,1,1,7264 4304,43,1,3008 4349,3,1,3008
    5024,80,1,38864 5104,6,1,8 7305,1,1,1 7545,1,1,35332 7549,1,1,3814 7566,1,1,35384 7680,48,2,1 7778,26,2,1
    7840,48,2,1 7936,8,1,8 7952,6,1,8 7968,8,1,8 7984,8,1,8 8000,6,1,8 8017,4,2,8 8032,8,1,8 8048,2,1,74
    8050,4,1,86 8054,2,1,100 8056,2,1,128 8058,2,1,112 8060,2,1,126 8064,8,1,8 8080,8,1,8 8096,8,1,8 8112,2,1,8
    8115,1,1,9 8131,1,1,9 8144,2,1,8 8160,2,1,8 8165,1,1,7 8179,1,1,9 8498,1,1,28 8544,16,1,16 8579,1,1,1
    9398,26,1,26 11264,48,1,48 11360,1,1,1 11367,3,2,1 11378,1,1,1 11381,1,1,1 11392,50,2,1 11499,2,2,1
    11506,1,1,1 42560,5,2,1 42572,17,2,1 42624,14,2,1 42786,7,2,1 42802,31,2,1 42873,2,2,1 42878,5,2,1 42891,1,1,1
    42896,2,2,1 42900,1,1,48 42902,10,2,1 42931,1,1,928 42932,8,2,1 42951,2,2,1 42956,1,1,1 42960,1,1,1
    42966,3,2,1 42997,1,1,1 64261,1,1,1 65313,26,1,32 66560,40,1,40 66736,36,1,40 66928,19,2,39 66929,5,2,39
    66941,7,2,39 66957,3,2,39 66965,1,1,39 68736,51,1,64 68944,22,1,32 71840,32,1,32 93760,32,1,32 125184,34,1,34"

/-- the orbits of more than two letters -/
def orbitTable : String :=
  "75,107,8490 83,115,383 181,924,956 197,229,8491 452,453,454 455,456,457 458,459,460 497,498,499
    837,921,953,8126 914,946,976 917,949,1013 920,952,977,1012 922,954,1008 928,960,982 929,961,1009 931,962,963
    934,966,981 937,969,8486 1042,1074,7296 1044,1076,7297 1054,1086,7298 1057,1089,7299 1058,1090,7300,7301
    1066,1098,7302 1122,1123,7303 7304,42570,42571 7776,7777,7835"

/-- the numbers of an entry of a table -/
def numbers (token : Text) : List Nat := (Text.splitOn ',' token).map CodeSet.decimal

def runOrbits : List Nat → List (List Nat)
  | [first, count, step, distance] =>
    (List.range count).map fun i => [first + i * step, first + i * step + distance]
  | _ => []

def orbits : List (List Nat) :=
  (Text.words pairTable.toList).flatMap (fun token => runOrbits (numbers token)) ++
    (Text.words orbitTable.toList).map numbers

/-- a set with every letter in all its cases -/
def closure (set : CodeSet) : CodeSet :=
  let touched := orbits.filter fun orbit => orbit.any fun code => CodeSet.inside set.turns code
  if touched.isEmpty then set else set.union (CodeSet.ofCodes touched.flatten)

end GlslInspect.Casing
