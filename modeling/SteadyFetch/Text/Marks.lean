import SteadyFetch.Text.CharSet

set_option autoImplicit false

/-! # Combining marks

The characters of the general category `Mark`, and which of them take room of their own. Both sets
hold for the characters that a domain name may have; elsewhere they say nothing. -/

namespace SteadyFetch

/-- The combining marks. -/
def marks : CharSet := ⟨#[
  768, 881, 1155, 1163, 1425, 1470, 1471, 1472, 1473, 1475, 1476, 1478, 1479, 1488, 1552, 1563,
  1611, 1632, 1648, 1649, 1750, 1758, 1759, 1765, 1767, 1769, 1770, 1774, 1809, 1810, 1840, 1869,
  1958, 1969, 2027, 2036, 2045, 2046, 2070, 2074, 2075, 2084, 2085, 2088, 2089, 2096, 2137, 2142,
  2199, 2208, 2250, 2308, 2362, 2365, 2366, 2384, 2385, 2400, 2402, 2404, 2433, 2437, 2492, 2493,
  2494, 2510, 2519, 2528, 2530, 2534, 2558, 2565, 2620, 2652, 2672, 2674, 2677, 2678, 2689, 2693,
  2748, 2749, 2750, 2768, 2786, 2790, 2810, 2821, 2876, 2877, 2878, 2911, 2914, 2918, 2946, 2947,
  3006, 3024, 3031, 3046, 3072, 3077, 3132, 3133, 3134, 3160, 3170, 3174, 3201, 3204, 3260, 3261,
  3262, 3292, 3298, 3302, 3315, 3332, 3387, 3389, 3390, 3406, 3415, 3416, 3426, 3430, 3457, 3461,
  3530, 3558, 3570, 3572, 3633, 3634, 3636, 3647, 3655, 3663, 3761, 3762, 3764, 3773, 3784, 3792,
  3864, 3866, 3893, 3894, 3895, 3896, 3897, 3898, 3902, 3904, 3953, 3973, 3974, 3976, 3981, 4030,
  4038, 4039, 4139, 4159, 4182, 4186, 4190, 4193, 4194, 4197, 4199, 4206, 4209, 4213, 4226, 4238,
  4239, 4240, 4250, 4254, 4957, 4960, 5906, 5919, 5938, 5941, 5970, 5984, 6002, 6016, 6070, 6100,
  6109, 6112, 6277, 6279, 6313, 6314, 6432, 6464, 6679, 6686, 6741, 6784, 6832, 6917, 6964, 6981,
  7019, 7028, 7040, 7043, 7073, 7086, 7142, 7164, 7204, 7227, 7376, 7379, 7380, 7401, 7405, 7406,
  7412, 7413, 7415, 7418, 7616, 7681, 8400, 8452, 11503, 11507, 11647, 11648, 11744, 11776, 12330,
  12336, 12441, 12445, 42607, 42611, 42612, 42622, 42654, 42656, 42736, 42738, 43010, 43011, 43014,
  43015, 43019, 43020, 43043, 43048, 43052, 43056, 43136, 43138, 43188, 43214, 43232, 43250, 43263,
  43264, 43302, 43310, 43335, 43359, 43392, 43396, 43443, 43457, 43493, 43494, 43561, 43584, 43587,
  43588, 43596, 43600, 43643, 43646, 43696, 43697, 43698, 43701, 43703, 43705, 43710, 43712, 43713,
  43714, 43755, 43760, 43765, 43777, 44003, 44011, 44012, 44016, 64286, 64434, 65056, 65093, 66045,
  66176, 66272, 66273, 66422, 66432, 68097, 68112, 68152, 68160, 68325, 68331, 68900, 68912, 68969,
  68974, 69291, 69293, 69370, 69376, 69446, 69457, 69506, 69510, 69632, 69635, 69688, 69703, 69744,
  69745, 69747, 69749, 69759, 69763, 69808, 69819, 69826, 69840, 69888, 69891, 69927, 69942, 69957,
  69959, 70003, 70004, 70016, 70019, 70067, 70081, 70089, 70093, 70094, 70096, 70188, 70200, 70206,
  70207, 70209, 70272, 70367, 70384, 70400, 70405, 70459, 70461, 70462, 70480, 70487, 70493, 70498,
  70528, 70584, 70609, 70610, 70611, 70625, 70656, 70709, 70727, 70750, 70751, 70832, 70852, 71087,
  71105, 71132, 71168, 71216, 71233, 71339, 71352, 71453, 71472, 71724, 71739, 71984, 71999, 72000,
  72001, 72002, 72004, 72145, 72161, 72164, 72192, 72193, 72203, 72243, 72250, 72251, 72255, 72263,
  72272, 72273, 72284, 72330, 72346, 72544, 72640, 72751, 72768, 72850, 72960, 73009, 73030, 73031,
  73040, 73098, 73112, 73459, 73463, 73472, 73474, 73475, 73476, 73524, 73539, 73562, 73648, 78912,
  78913, 78919, 78944, 90398, 90416, 92912, 92917, 92976, 92983, 94031, 94032, 94033, 94099, 94180,
  94194, 113821, 113823, 118528, 118608, 119141, 119146, 119149, 119171, 119173, 119180, 119210,
  119214, 119362, 119365, 121344, 121399, 121403, 121453, 121461, 121462, 121476, 121477, 121499,
  122624, 122880, 123136, 123184, 123191, 123566, 123584, 123628, 123632, 124140, 124144, 124398,
  124400, 124643, 124644, 124646, 124647, 124654, 124656, 124661, 124670, 125136, 125218, 125252,
  125259]⟩

/-- Among the combining marks, those that take room of their own (`Spacing_Mark`). -/
def spacing : CharSet := ⟨#[
  2307, 2362, 2363, 2364, 2366, 2369, 2377, 2381, 2382, 2385, 2434, 2492, 2494, 2497, 2503, 2509,
  2519, 2530, 2563, 2620, 2622, 2625, 2691, 2748, 2750, 2753, 2761, 2765, 2818, 2876, 2878, 2879,
  2880, 2881, 2887, 2893, 2903, 2914, 3006, 3008, 3009, 3021, 3031, 3072, 3073, 3076, 3137, 3142,
  3202, 3260, 3262, 3263, 3264, 3270, 3271, 3276, 3285, 3298, 3315, 3328, 3330, 3387, 3390, 3393,
  3398, 3405, 3415, 3426, 3458, 3530, 3535, 3538, 3544, 3633, 3902, 3953, 3967, 3968, 4139, 4141,
  4145, 4146, 4152, 4153, 4155, 4157, 4182, 4184, 4194, 4209, 4227, 4229, 4231, 4237, 4239, 4253,
  5909, 5938, 5940, 5970, 6070, 6071, 6078, 6086, 6087, 6089, 6435, 6439, 6441, 6450, 6451, 6457,
  6681, 6683, 6741, 6742, 6743, 6744, 6753, 6754, 6755, 6757, 6765, 6771, 6916, 6964, 6965, 6966,
  6971, 6972, 6973, 6978, 6979, 7019, 7042, 7074, 7078, 7080, 7082, 7083, 7143, 7144, 7146, 7149,
  7150, 7151, 7154, 7212, 7220, 7222, 7393, 7394, 7415, 7416, 12334, 12441, 43043, 43045, 43047,
  43052, 43136, 43204, 43346, 43392, 43395, 43443, 43444, 43446, 43450, 43452, 43454, 43493, 43567,
  43569, 43571, 43573, 43597, 43644, 43645, 43696, 43755, 43756, 43758, 43766, 44003, 44005, 44006,
  44008, 44009, 44013, 69632, 69633, 69634, 69688, 69762, 69811, 69815, 69817, 69932, 69933, 69957,
  70003, 70018, 70070, 70079, 70089, 70094, 70095, 70188, 70191, 70194, 70196, 70197, 70198, 70368,
  70371, 70402, 70459, 70462, 70464, 70465, 70502, 70584, 70587, 70594, 70606, 70607, 70608, 70709,
  70712, 70720, 70722, 70725, 70726, 70832, 70835, 70841, 70842, 70843, 70847, 70849, 70850, 71087,
  71090, 71096, 71100, 71102, 71103, 71216, 71219, 71227, 71229, 71230, 71231, 71340, 71341, 71342,
  71344, 71350, 71351, 71454, 71455, 71456, 71458, 71462, 71463, 71724, 71727, 71736, 71737, 71984,
  71995, 71997, 71998, 72000, 72003, 72145, 72148, 72156, 72160, 72164, 72193, 72249, 72251, 72279,
  72281, 72343, 72344, 72545, 72546, 72549, 72550, 72551, 72752, 72766, 72767, 72873, 72874, 72881,
  72882, 72884, 72885, 73098, 73104, 73107, 73109, 73110, 73111, 73461, 73472, 73475, 73526, 73534,
  73536, 73537, 73538, 90410, 90413, 94033, 94095, 94192, 113821, 119141, 119143, 119149, 119163]⟩

/-- Whether a character is a combining mark. -/
def isMark (c : Char) : Bool := marks.contains c

/-- Whether a character is a mark that takes no room of its own: a nonspacing or enclosing one. -/
def isNonspacing (c : Char) : Bool := isMark c && !spacing.contains c

end SteadyFetch
