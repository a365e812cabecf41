import SamlAdmin.Unicode.Ranges

/-!
# Direction classes

Each code point has a class that says how it takes part in the order of a line in
which scripts of both directions meet.  The classes that matter apart from each
other in a name are kept apart here; the rest is one class.
-/

namespace SamlAdmin.Unicode

/-- The class of a code point in a line of both directions. -/
inductive Direction where
  | leftToRight
  | rightToLeft
  | arabicLetter
  | arabicNumber
  | europeanNumber
  | europeanSeparator
  | commonSeparator
  | europeanTerminator
  | neutral
  | boundary
  | nonspacing
  | layout
  deriving DecidableEq

/-- Where the class of letters written from right to left begins and ends. -/
def rightToLeftBounds : Array Nat := #[
  1470, 1471, 1472, 1473, 1475, 1476, 1478, 1479, 1488, 1515, 1519, 1525, 1984, 2027, 2036, 2038,
  2042, 2043, 2046, 2070, 2074, 2075, 2084, 2085, 2088, 2089, 2096, 2111, 2112, 2137, 2142, 2143,
  8207, 8208, 64285, 64286, 64287, 64297, 64298, 64311, 64312, 64317, 64318, 64319, 64320, 64322,
  64323, 64325, 64326, 64336, 67584, 67590, 67592, 67593, 67594, 67638, 67639, 67641, 67644,
  67645, 67647, 67670, 67671, 67743, 67751, 67760, 67808, 67827, 67828, 67830, 67835, 67868,
  67872, 67898, 67903, 67904, 67968, 68024, 68028, 68048, 68050, 68097, 68112, 68116, 68117,
  68120, 68121, 68150, 68160, 68169, 68176, 68185, 68192, 68256, 68288, 68325, 68331, 68343,
  68352, 68406, 68416, 68438, 68440, 68467, 68472, 68498, 68505, 68509, 68521, 68528, 68608,
  68681, 68736, 68787, 68800, 68851, 68858, 68864, 69248, 69290, 69293, 69294, 69296, 69298,
  69376, 69416, 69488, 69506, 69510, 69514, 69552, 69580, 69600, 69623, 124928, 125125, 125127,
  125136, 125184, 125252, 125259, 125260, 125264, 125274, 125278, 125280]

/-- Where the class of letters of Arabic and its kin begins and ends. -/
def arabicLetterBounds : Array Nat := #[
  1544, 1545, 1547, 1548, 1549, 1550, 1563, 1611, 1645, 1648, 1649, 1750, 1765, 1767, 1774, 1776,
  1786, 1806, 1807, 1809, 1810, 1840, 1869, 1958, 1969, 1970, 2144, 2155, 2160, 2191, 2208, 2250,
  64336, 64451, 64467, 64830, 64848, 64912, 64914, 64968, 65008, 65021, 65136, 65141, 65142,
  65277, 68864, 68900, 69424, 69446, 69457, 69466, 126065, 126133, 126209, 126270, 126464,
  126468, 126469, 126496, 126497, 126499, 126500, 126501, 126503, 126504, 126505, 126515, 126516,
  126520, 126521, 126522, 126523, 126524, 126530, 126531, 126535, 126536, 126537, 126538, 126539,
  126540, 126541, 126544, 126545, 126547, 126548, 126549, 126551, 126552, 126553, 126554, 126555,
  126556, 126557, 126558, 126559, 126560, 126561, 126563, 126564, 126565, 126567, 126571, 126572,
  126579, 126580, 126584, 126585, 126589, 126590, 126591, 126592, 126602, 126603, 126620, 126625,
  126628, 126629, 126634, 126635, 126652]

/-- Where the class of digits of Arabic begins and ends. -/
def arabicNumberBounds : Array Nat := #[
  1536, 1542, 1632, 1642, 1643, 1645, 1757, 1758, 2192, 2194, 2274, 2275, 68912, 68922, 69216,
  69247]

/-- Where the class of digits written from left to right begins and ends. -/
def europeanNumberBounds : Array Nat := #[
  48, 58, 178, 180, 185, 186, 1776, 1786, 8304, 8305, 8308, 8314, 8320, 8330, 9352, 9372, 65296,
  65306, 66273, 66300, 120782, 120832, 127232, 127243, 130032, 130042]

/-- Where the class of signs that stand before a number begins and ends. -/
def europeanSeparatorBounds : Array Nat := #[
  43, 44, 45, 46, 8314, 8316, 8330, 8332, 8722, 8723, 64297, 64298, 65122, 65124, 65291, 65292,
  65293, 65294]

/-- Where the class of signs that stand inside a number begins and ends. -/
def commonSeparatorBounds : Array Nat := #[
  44, 45, 46, 48, 58, 59, 160, 161, 1548, 1549, 8239, 8240, 8260, 8261, 65104, 65105, 65106,
  65107, 65109, 65110, 65292, 65293, 65294, 65296, 65306, 65307]

/-- Where the class of signs that stand after a number begins and ends. -/
def europeanTerminatorBounds : Array Nat := #[
  35, 38, 162, 166, 176, 178, 1423, 1424, 1545, 1547, 1642, 1643, 2546, 2548, 2555, 2556, 2801,
  2802, 3065, 3066, 3647, 3648, 6107, 6108, 8240, 8245, 8352, 8385, 8494, 8495, 8723, 8724,
  43064, 43066, 65119, 65120, 65129, 65131, 65283, 65286, 65504, 65506, 65509, 65511, 73693,
  73697, 123647, 123648]

/-- Where the class of signs that take the direction around them begins and ends. -/
def neutralBounds : Array Nat := #[
  33, 35, 38, 43, 59, 65, 91, 97, 123, 127, 161, 162, 166, 170, 171, 173, 174, 176, 180, 181,
  182, 185, 187, 192, 215, 216, 247, 248, 697, 699, 706, 720, 722, 736, 741, 750, 751, 768, 884,
  886, 894, 895, 900, 902, 903, 904, 1014, 1015, 1418, 1419, 1421, 1423, 1542, 1544, 1550, 1552,
  1758, 1759, 1769, 1770, 2038, 2042, 3059, 3065, 3066, 3067, 3192, 3199, 3898, 3902, 5008, 5018,
  5120, 5121, 5787, 5789, 6128, 6138, 6144, 6155, 6464, 6465, 6468, 6470, 6622, 6656, 8125, 8126,
  8127, 8130, 8141, 8144, 8157, 8160, 8173, 8176, 8189, 8191, 8208, 8232, 8245, 8260, 8261, 8287,
  8316, 8319, 8332, 8335, 8448, 8450, 8451, 8455, 8456, 8458, 8468, 8469, 8470, 8473, 8478, 8484,
  8485, 8486, 8487, 8488, 8489, 8490, 8506, 8508, 8512, 8517, 8522, 8526, 8528, 8544, 8585, 8588,
  8592, 8722, 8724, 9014, 9083, 9109, 9110, 9255, 9280, 9291, 9312, 9352, 9450, 9900, 9901,
  10240, 10496, 11124, 11126, 11158, 11159, 11264, 11493, 11499, 11513, 11520, 11776, 11870,
  11904, 11930, 11931, 12020, 12032, 12246, 12272, 12284, 12289, 12293, 12296, 12321, 12336,
  12337, 12342, 12344, 12349, 12352, 12443, 12445, 12448, 12449, 12539, 12540, 12736, 12772,
  12829, 12831, 12880, 12896, 12924, 12927, 12977, 12992, 13004, 13008, 13175, 13179, 13278,
  13280, 13311, 13312, 19904, 19968, 42128, 42183, 42509, 42512, 42611, 42612, 42622, 42624,
  42752, 42786, 42888, 42889, 43048, 43052, 43124, 43128, 43882, 43884, 64830, 64848, 64975,
  64976, 65021, 65024, 65040, 65050, 65072, 65104, 65105, 65106, 65108, 65109, 65110, 65119,
  65120, 65122, 65124, 65127, 65128, 65129, 65131, 65132, 65281, 65283, 65286, 65291, 65307,
  65313, 65339, 65345, 65371, 65382, 65506, 65509, 65512, 65519, 65529, 65534, 65793, 65794,
  65856, 65933, 65936, 65949, 65952, 65953, 67871, 67872, 68409, 68416, 69714, 69734, 71264,
  71277, 73685, 73693, 73697, 73714, 94178, 94179, 119273, 119275, 119296, 119362, 119365,
  119366, 119552, 119639, 120539, 120540, 120597, 120598, 120655, 120656, 120713, 120714, 120771,
  120772, 126704, 126706, 126976, 127020, 127024, 127124, 127136, 127151, 127153, 127168, 127169,
  127184, 127185, 127222, 127243, 127248, 127279, 127280, 127338, 127344, 127405, 127406, 127584,
  127590, 127744, 128728, 128732, 128749, 128752, 128765, 128768, 128887, 128891, 128986, 128992,
  129004, 129008, 129009, 129024, 129036, 129040, 129096, 129104, 129114, 129120, 129160, 129168,
  129198, 129200, 129202, 129280, 129620, 129632, 129646, 129648, 129661, 129664, 129673, 129680,
  129726, 129727, 129734, 129742, 129756, 129760, 129769, 129776, 129785, 129792, 129939, 129940,
  129995]

/-- Where the class of invisible code points without a direction begins and ends. -/
def boundaryBounds : Array Nat := #[
  0, 9, 14, 28, 127, 133, 134, 160, 173, 174, 6158, 6159, 8203, 8206, 8288, 8293, 8298, 8304,
  65279, 65280, 113824, 113828, 119155, 119163, 917505, 917506, 917536, 917632]

/-- Where the class of marks that take no room of their own begins and ends. -/
def nonspacingBounds : Array Nat := #[
  768, 880, 1155, 1162, 1425, 1470, 1471, 1472, 1473, 1475, 1476, 1478, 1479, 1480, 1552, 1563,
  1611, 1632, 1648, 1649, 1750, 1757, 1759, 1765, 1767, 1769, 1770, 1774, 1809, 1810, 1840, 1867,
  1958, 1969, 2027, 2036, 2045, 2046, 2070, 2074, 2075, 2084, 2085, 2088, 2089, 2094, 2137, 2140,
  2200, 2208, 2250, 2274, 2275, 2307, 2362, 2363, 2364, 2365, 2369, 2377, 2381, 2382, 2385, 2392,
  2402, 2404, 2433, 2434, 2492, 2493, 2497, 2501, 2509, 2510, 2530, 2532, 2558, 2559, 2561, 2563,
  2620, 2621, 2625, 2627, 2631, 2633, 2635, 2638, 2641, 2642, 2672, 2674, 2677, 2678, 2689, 2691,
  2748, 2749, 2753, 2758, 2759, 2761, 2765, 2766, 2786, 2788, 2810, 2816, 2817, 2818, 2876, 2877,
  2879, 2880, 2881, 2885, 2893, 2894, 2901, 2903, 2914, 2916, 2946, 2947, 3008, 3009, 3021, 3022,
  3072, 3073, 3076, 3077, 3132, 3133, 3134, 3137, 3142, 3145, 3146, 3150, 3157, 3159, 3170, 3172,
  3201, 3202, 3260, 3261, 3276, 3278, 3298, 3300, 3328, 3330, 3387, 3389, 3393, 3397, 3405, 3406,
  3426, 3428, 3457, 3458, 3530, 3531, 3538, 3541, 3542, 3543, 3633, 3634, 3636, 3643, 3655, 3663,
  3761, 3762, 3764, 3773, 3784, 3791, 3864, 3866, 3893, 3894, 3895, 3896, 3897, 3898, 3953, 3967,
  3968, 3973, 3974, 3976, 3981, 3992, 3993, 4029, 4038, 4039, 4141, 4145, 4146, 4152, 4153, 4155,
  4157, 4159, 4184, 4186, 4190, 4193, 4209, 4213, 4226, 4227, 4229, 4231, 4237, 4238, 4253, 4254,
  4957, 4960, 5906, 5909, 5938, 5940, 5970, 5972, 6002, 6004, 6068, 6070, 6071, 6078, 6086, 6087,
  6089, 6100, 6109, 6110, 6155, 6158, 6159, 6160, 6277, 6279, 6313, 6314, 6432, 6435, 6439, 6441,
  6450, 6451, 6457, 6460, 6679, 6681, 6683, 6684, 6742, 6743, 6744, 6751, 6752, 6753, 6754, 6755,
  6757, 6765, 6771, 6781, 6783, 6784, 6832, 6863, 6912, 6916, 6964, 6965, 6966, 6971, 6972, 6973,
  6978, 6979, 7019, 7028, 7040, 7042, 7074, 7078, 7080, 7082, 7083, 7086, 7142, 7143, 7144, 7146,
  7149, 7150, 7151, 7154, 7212, 7220, 7222, 7224, 7376, 7379, 7380, 7393, 7394, 7401, 7405, 7406,
  7412, 7413, 7416, 7418, 7616, 7680, 8400, 8433, 11503, 11506, 11647, 11648, 11744, 11776,
  12330, 12334, 12441, 12443, 42607, 42611, 42612, 42622, 42654, 42656, 42736, 42738, 43010,
  43011, 43014, 43015, 43019, 43020, 43045, 43047, 43052, 43053, 43204, 43206, 43232, 43250,
  43263, 43264, 43302, 43310, 43335, 43346, 43392, 43395, 43443, 43444, 43446, 43450, 43452,
  43454, 43493, 43494, 43561, 43567, 43569, 43571, 43573, 43575, 43587, 43588, 43596, 43597,
  43644, 43645, 43696, 43697, 43698, 43701, 43703, 43705, 43710, 43712, 43713, 43714, 43756,
  43758, 43766, 43767, 44005, 44006, 44008, 44009, 44013, 44014, 64286, 64287, 65024, 65040,
  65056, 65072, 66045, 66046, 66272, 66273, 66422, 66427, 68097, 68100, 68101, 68103, 68108,
  68112, 68152, 68155, 68159, 68160, 68325, 68327, 68900, 68904, 69291, 69293, 69373, 69376,
  69446, 69457, 69506, 69510, 69633, 69634, 69688, 69703, 69744, 69745, 69747, 69749, 69759,
  69762, 69811, 69815, 69817, 69819, 69826, 69827, 69888, 69891, 69927, 69932, 69933, 69941,
  70003, 70004, 70016, 70018, 70070, 70079, 70089, 70093, 70095, 70096, 70191, 70194, 70196,
  70197, 70198, 70200, 70206, 70207, 70209, 70210, 70367, 70368, 70371, 70379, 70400, 70402,
  70459, 70461, 70464, 70465, 70502, 70509, 70512, 70517, 70712, 70720, 70722, 70725, 70726,
  70727, 70750, 70751, 70835, 70841, 70842, 70843, 70847, 70849, 70850, 70852, 71090, 71094,
  71100, 71102, 71103, 71105, 71132, 71134, 71219, 71227, 71229, 71230, 71231, 71233, 71339,
  71340, 71341, 71342, 71344, 71350, 71351, 71352, 71453, 71456, 71458, 71462, 71463, 71468,
  71727, 71736, 71737, 71739, 71995, 71997, 71998, 71999, 72003, 72004, 72148, 72152, 72154,
  72156, 72160, 72161, 72193, 72199, 72201, 72203, 72243, 72249, 72251, 72255, 72263, 72264,
  72273, 72279, 72281, 72284, 72330, 72343, 72344, 72346, 72752, 72759, 72760, 72766, 72850,
  72872, 72874, 72881, 72882, 72884, 72885, 72887, 73009, 73015, 73018, 73019, 73020, 73022,
  73023, 73030, 73031, 73032, 73104, 73106, 73109, 73110, 73111, 73112, 73459, 73461, 73472,
  73474, 73526, 73531, 73536, 73537, 73538, 73539, 78912, 78913, 78919, 78934, 92912, 92917,
  92976, 92983, 94031, 94032, 94095, 94099, 94180, 94181, 113821, 113823, 118528, 118574, 118576,
  118599, 119143, 119146, 119163, 119171, 119173, 119180, 119210, 119214, 119362, 119365, 121344,
  121399, 121403, 121453, 121461, 121462, 121476, 121477, 121499, 121504, 121505, 121520, 122880,
  122887, 122888, 122905, 122907, 122914, 122915, 122917, 122918, 122923, 123023, 123024, 123184,
  123191, 123566, 123567, 123628, 123632, 124140, 124144, 125136, 125143, 125252, 125259, 917760,
  918000]

/-- Where the class of the controls of direction, the separators of lines and the
blanks begins and ends. -/
def layoutBounds : Array Nat := #[
  9, 14, 28, 33, 133, 134, 5760, 5761, 8192, 8203, 8232, 8239, 8287, 8288, 8294, 8298, 12288,
  12289]

/-- The tables of the classes other than letters written from left to right. -/
def directionBounds : List (Direction × Array Nat) :=
  [(.rightToLeft, rightToLeftBounds), (.arabicLetter, arabicLetterBounds),
   (.arabicNumber, arabicNumberBounds), (.europeanNumber, europeanNumberBounds),
   (.europeanSeparator, europeanSeparatorBounds), (.commonSeparator, commonSeparatorBounds),
   (.europeanTerminator, europeanTerminatorBounds), (.neutral, neutralBounds),
   (.boundary, boundaryBounds), (.nonspacing, nonspacingBounds), (.layout, layoutBounds)]

def Direction.ofNumber (number : Nat) : Direction :=
  match directionBounds.find? fun (_, bounds) => inRanges bounds number with
  | some (direction, _) => direction
  | none => .leftToRight

end SamlAdmin.Unicode
