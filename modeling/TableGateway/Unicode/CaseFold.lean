/-!
# Simple case folding

Two characters are the same without regard to case when they lie in one orbit. A row links runs of
characters: the characters `least + i * step` stand for their orbits, as their least members, and
`other + i * step` are further members of the same orbits, for `i < count`.
-/

namespace TableGateway.Unicode

/-- A run of links from the least member of an orbit to another member. -/
structure FoldRow where
  least : Nat
  other : Nat
  count : Nat
  step : Nat

def FoldRow.index? (row : FoldRow) (start code : Nat) : Option Nat :=
  if start ≤ code && (code - start) % row.step == 0 && (code - start) / row.step < row.count then
    some ((code - start) / row.step)
  else none

def foldRows : List FoldRow := [
  ⟨65, 97, 26, 1⟩, ⟨75, 8490, 1, 1⟩, ⟨83, 383, 1, 1⟩, ⟨181, 924, 1, 1⟩, ⟨181, 956, 1, 1⟩,
  ⟨192, 224, 23, 1⟩, ⟨197, 8491, 1, 1⟩, ⟨216, 248, 7, 1⟩, ⟨223, 7838, 1, 1⟩, ⟨255, 376, 1, 1⟩,
  ⟨256, 257, 24, 2⟩, ⟨306, 307, 3, 2⟩, ⟨313, 314, 8, 2⟩, ⟨330, 331, 23, 2⟩, ⟨377, 378, 3, 2⟩,
  ⟨384, 579, 1, 1⟩, ⟨385, 595, 1, 1⟩, ⟨386, 387, 2, 2⟩, ⟨390, 596, 1, 1⟩, ⟨391, 392, 1, 1⟩,
  ⟨393, 598, 2, 1⟩, ⟨395, 396, 1, 1⟩, ⟨398, 477, 1, 1⟩, ⟨399, 601, 1, 1⟩, ⟨400, 603, 1, 1⟩,
  ⟨401, 402, 1, 1⟩, ⟨403, 608, 1, 1⟩, ⟨404, 611, 1, 1⟩, ⟨405, 502, 1, 1⟩, ⟨406, 617, 1, 1⟩,
  ⟨407, 616, 1, 1⟩, ⟨408, 409, 1, 1⟩, ⟨410, 573, 1, 1⟩, ⟨411, 42972, 1, 1⟩, ⟨412, 623, 1, 1⟩,
  ⟨413, 626, 1, 1⟩, ⟨414, 544, 1, 1⟩, ⟨415, 629, 1, 1⟩, ⟨416, 417, 3, 2⟩, ⟨422, 640, 1, 1⟩,
  ⟨423, 424, 1, 1⟩, ⟨425, 643, 1, 1⟩, ⟨428, 429, 1, 1⟩, ⟨430, 648, 1, 1⟩, ⟨431, 432, 1, 1⟩,
  ⟨433, 650, 2, 1⟩, ⟨435, 436, 2, 2⟩, ⟨439, 658, 1, 1⟩, ⟨440, 441, 1, 1⟩, ⟨444, 445, 1, 1⟩,
  ⟨447, 503, 1, 1⟩, ⟨452, 453, 1, 1⟩, ⟨452, 454, 1, 1⟩, ⟨455, 456, 1, 1⟩, ⟨455, 457, 1, 1⟩,
  ⟨458, 459, 1, 1⟩, ⟨458, 460, 1, 1⟩, ⟨461, 462, 8, 2⟩, ⟨478, 479, 9, 2⟩, ⟨497, 498, 1, 1⟩,
  ⟨497, 499, 1, 1⟩, ⟨500, 501, 1, 1⟩, ⟨504, 505, 20, 2⟩, ⟨546, 547, 9, 2⟩, ⟨570, 11365, 1, 1⟩,
  ⟨571, 572, 1, 1⟩, ⟨574, 11366, 1, 1⟩, ⟨575, 11390, 2, 1⟩, ⟨577, 578, 1, 1⟩, ⟨580, 649, 1, 1⟩,
  ⟨581, 652, 1, 1⟩, ⟨582, 583, 5, 2⟩, ⟨592, 11375, 1, 1⟩, ⟨593, 11373, 1, 1⟩, ⟨594, 11376, 1, 1⟩,
  ⟨604, 42923, 1, 1⟩, ⟨609, 42924, 1, 1⟩, ⟨612, 42955, 1, 1⟩, ⟨613, 42893, 1, 1⟩,
  ⟨614, 42922, 1, 1⟩, ⟨618, 42926, 1, 1⟩, ⟨619, 11362, 1, 1⟩, ⟨620, 42925, 1, 1⟩,
  ⟨625, 11374, 1, 1⟩, ⟨637, 11364, 1, 1⟩, ⟨642, 42949, 1, 1⟩, ⟨647, 42929, 1, 1⟩,
  ⟨669, 42930, 1, 1⟩, ⟨670, 42928, 1, 1⟩, ⟨837, 921, 1, 1⟩, ⟨837, 953, 1, 1⟩, ⟨837, 8126, 1, 1⟩,
  ⟨880, 881, 2, 2⟩, ⟨886, 887, 1, 1⟩, ⟨891, 1021, 3, 1⟩, ⟨895, 1011, 1, 1⟩, ⟨902, 940, 1, 1⟩,
  ⟨904, 941, 3, 1⟩, ⟨908, 972, 1, 1⟩, ⟨910, 973, 2, 1⟩, ⟨912, 8147, 1, 1⟩, ⟨913, 945, 8, 1⟩,
  ⟨914, 976, 1, 1⟩, ⟨917, 1013, 1, 1⟩, ⟨920, 977, 1, 1⟩, ⟨920, 1012, 1, 1⟩, ⟨922, 954, 2, 1⟩,
  ⟨922, 1008, 1, 1⟩, ⟨925, 957, 8, 2⟩, ⟨926, 958, 2, 2⟩, ⟨928, 982, 1, 1⟩, ⟨929, 1009, 1, 1⟩,
  ⟨931, 962, 1, 1⟩, ⟨932, 964, 4, 2⟩, ⟨934, 981, 1, 1⟩, ⟨937, 8486, 1, 1⟩, ⟨944, 8163, 1, 1⟩,
  ⟨975, 983, 1, 1⟩, ⟨984, 985, 12, 2⟩, ⟨1010, 1017, 1, 1⟩, ⟨1015, 1016, 1, 1⟩, ⟨1018, 1019, 1, 1⟩,
  ⟨1024, 1104, 16, 1⟩, ⟨1040, 1072, 32, 1⟩, ⟨1042, 7296, 1, 1⟩, ⟨1044, 7297, 1, 1⟩,
  ⟨1054, 7298, 1, 1⟩, ⟨1057, 7299, 2, 1⟩, ⟨1058, 7301, 1, 1⟩, ⟨1066, 7302, 1, 1⟩,
  ⟨1120, 1121, 17, 2⟩, ⟨1122, 7303, 1, 1⟩, ⟨1162, 1163, 27, 2⟩, ⟨1216, 1231, 1, 1⟩,
  ⟨1217, 1218, 7, 2⟩, ⟨1232, 1233, 48, 2⟩, ⟨1329, 1377, 38, 1⟩, ⟨4256, 11520, 38, 1⟩,
  ⟨4295, 11559, 1, 1⟩, ⟨4301, 11565, 1, 1⟩, ⟨4304, 7312, 43, 1⟩, ⟨4349, 7357, 3, 1⟩,
  ⟨5024, 43888, 80, 1⟩, ⟨5104, 5112, 6, 1⟩, ⟨7304, 42570, 1, 1⟩, ⟨7304, 42571, 1, 1⟩,
  ⟨7305, 7306, 1, 1⟩, ⟨7545, 42877, 1, 1⟩, ⟨7549, 11363, 1, 1⟩, ⟨7566, 42950, 1, 1⟩,
  ⟨7680, 7681, 75, 2⟩, ⟨7776, 7835, 1, 1⟩, ⟨7840, 7841, 48, 2⟩, ⟨7936, 7944, 8, 1⟩,
  ⟨7952, 7960, 6, 1⟩, ⟨7968, 7976, 8, 1⟩, ⟨7984, 7992, 8, 1⟩, ⟨8000, 8008, 6, 1⟩,
  ⟨8017, 8025, 4, 2⟩, ⟨8032, 8040, 8, 1⟩, ⟨8048, 8122, 2, 1⟩, ⟨8050, 8136, 4, 1⟩,
  ⟨8054, 8154, 2, 1⟩, ⟨8056, 8184, 2, 1⟩, ⟨8058, 8170, 2, 1⟩, ⟨8060, 8186, 2, 1⟩,
  ⟨8064, 8072, 8, 1⟩, ⟨8080, 8088, 8, 1⟩, ⟨8096, 8104, 8, 1⟩, ⟨8112, 8120, 2, 1⟩,
  ⟨8115, 8124, 1, 1⟩, ⟨8131, 8140, 1, 1⟩, ⟨8144, 8152, 2, 1⟩, ⟨8160, 8168, 2, 1⟩,
  ⟨8165, 8172, 1, 1⟩, ⟨8179, 8188, 1, 1⟩, ⟨8498, 8526, 1, 1⟩, ⟨8544, 8560, 16, 1⟩,
  ⟨8579, 8580, 1, 1⟩, ⟨9398, 9424, 26, 1⟩, ⟨11264, 11312, 48, 1⟩, ⟨11360, 11361, 1, 1⟩,
  ⟨11367, 11368, 3, 2⟩, ⟨11378, 11379, 1, 1⟩, ⟨11381, 11382, 1, 1⟩, ⟨11392, 11393, 50, 2⟩,
  ⟨11499, 11500, 2, 2⟩, ⟨11506, 11507, 1, 1⟩, ⟨42560, 42561, 5, 2⟩, ⟨42572, 42573, 17, 2⟩,
  ⟨42624, 42625, 14, 2⟩, ⟨42786, 42787, 7, 2⟩, ⟨42802, 42803, 31, 2⟩, ⟨42873, 42874, 2, 2⟩,
  ⟨42878, 42879, 5, 2⟩, ⟨42891, 42892, 1, 1⟩, ⟨42896, 42897, 2, 2⟩, ⟨42900, 42948, 1, 1⟩,
  ⟨42902, 42903, 10, 2⟩, ⟨42931, 43859, 1, 1⟩, ⟨42932, 42933, 8, 2⟩, ⟨42951, 42952, 2, 2⟩,
  ⟨42956, 42957, 8, 2⟩, ⟨42997, 42998, 1, 1⟩, ⟨64261, 64262, 1, 1⟩, ⟨65313, 65345, 26, 1⟩,
  ⟨66560, 66600, 40, 1⟩, ⟨66736, 66776, 36, 1⟩, ⟨66928, 66967, 19, 2⟩, ⟨66929, 66968, 5, 2⟩,
  ⟨66941, 66980, 7, 2⟩, ⟨66957, 66996, 3, 2⟩, ⟨66965, 67004, 1, 1⟩, ⟨68736, 68800, 51, 1⟩,
  ⟨68944, 68976, 22, 1⟩, ⟨71840, 71872, 32, 1⟩, ⟨93760, 93792, 32, 1⟩, ⟨93856, 93883, 25, 1⟩,
  ⟨125184, 125218, 34, 1⟩]

def foldLeast (code : Nat) : Nat :=
  (foldRows.findSome? fun row =>
    (row.index? row.other code).map fun i => row.least + i * row.step).getD code

/-- The code points that equal this one without regard to case, this one among them. -/
def foldOrbit (code : Nat) : List Nat :=
  let least := foldLeast code
  least :: foldRows.filterMap fun row =>
    (row.index? row.least least).map fun i => row.other + i * row.step

def caseOrbit (c : Char) : List Char :=
  (foldOrbit c.toNat).map Char.ofNat

end TableGateway.Unicode
