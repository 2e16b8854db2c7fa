import ComponentCatalog.Unicode.Stride

/-!
# Scripts

Every assigned code point belongs to one script. A script goes by a four-letter name and by a long
one.
-/

namespace ComponentCatalog.Unicode

def scriptArabic : List Stride := [
  (1536, 1540, 1), (1542, 1547, 1), (1549, 1562, 1), (1564, 1566, 1), (1568, 1599, 1),
  (1601, 1610, 1), (1622, 1647, 1), (1649, 1756, 1), (1758, 1791, 1), (1872, 1919, 1),
  (2160, 2190, 1), (2192, 2193, 1), (2200, 2273, 1), (2275, 2303, 1), (64336, 64450, 1),
  (64467, 64829, 1), (64832, 64911, 1), (64914, 64967, 1), (64975, 64975, 1), (65008, 65023, 1),
  (65136, 65140, 1), (65142, 65276, 1), (69216, 69246, 1), (69373, 69375, 1),
  (126464, 126467, 1), (126469, 126495, 1), (126497, 126498, 1), (126500, 126500, 1),
  (126503, 126503, 1), (126505, 126514, 1), (126516, 126519, 1), (126521, 126521, 1),
  (126523, 126523, 1), (126530, 126530, 1), (126535, 126539, 2), (126541, 126543, 1),
  (126545, 126546, 1), (126548, 126548, 1), (126551, 126559, 2), (126561, 126562, 1),
  (126564, 126564, 1), (126567, 126570, 1), (126572, 126578, 1), (126580, 126583, 1),
  (126585, 126588, 1), (126590, 126590, 1), (126592, 126601, 1), (126603, 126619, 1),
  (126625, 126627, 1), (126629, 126633, 1), (126635, 126651, 1), (126704, 126705, 1)]

def scriptBengali : List Stride := [
  (2432, 2435, 1), (2437, 2444, 1), (2447, 2448, 1), (2451, 2472, 1), (2474, 2480, 1),
  (2482, 2482, 1), (2486, 2489, 1), (2492, 2500, 1), (2503, 2504, 1), (2507, 2510, 1),
  (2519, 2519, 1), (2524, 2525, 1), (2527, 2531, 1), (2534, 2558, 1)]

def scriptEthiopic : List Stride := [
  (4608, 4680, 1), (4682, 4685, 1), (4688, 4694, 1), (4696, 4696, 1), (4698, 4701, 1),
  (4704, 4744, 1), (4746, 4749, 1), (4752, 4784, 1), (4786, 4789, 1), (4792, 4798, 1),
  (4800, 4800, 1), (4802, 4805, 1), (4808, 4822, 1), (4824, 4880, 1), (4882, 4885, 1),
  (4888, 4954, 1), (4957, 4988, 1), (4992, 5017, 1), (11648, 11670, 1), (11680, 11686, 1),
  (11688, 11694, 1), (11696, 11702, 1), (11704, 11710, 1), (11712, 11718, 1), (11720, 11726, 1),
  (11728, 11734, 1), (11736, 11742, 1), (43777, 43782, 1), (43785, 43790, 1), (43793, 43798, 1),
  (43808, 43814, 1), (43816, 43822, 1), (124896, 124902, 1), (124904, 124907, 1),
  (124909, 124910, 1), (124912, 124926, 1)]

def scriptGrantha : List Stride := [
  (70400, 70403, 1), (70405, 70412, 1), (70415, 70416, 1), (70419, 70440, 1), (70442, 70448, 1),
  (70450, 70451, 1), (70453, 70457, 1), (70460, 70468, 1), (70471, 70472, 1), (70475, 70477, 1),
  (70480, 70480, 1), (70487, 70487, 1), (70493, 70499, 1), (70502, 70508, 1), (70512, 70516, 1)]

def scriptGreek : List Stride := [
  (880, 883, 1), (885, 887, 1), (890, 893, 1), (895, 895, 1), (900, 902, 2), (904, 906, 1),
  (908, 908, 1), (910, 929, 1), (931, 993, 1), (1008, 1023, 1), (7462, 7466, 1), (7517, 7521, 1),
  (7526, 7530, 1), (7615, 7615, 1), (7936, 7957, 1), (7960, 7965, 1), (7968, 8005, 1),
  (8008, 8013, 1), (8016, 8023, 1), (8025, 8029, 2), (8031, 8061, 1), (8064, 8116, 1),
  (8118, 8132, 1), (8134, 8147, 1), (8150, 8155, 1), (8157, 8175, 1), (8178, 8180, 1),
  (8182, 8190, 1), (8486, 8486, 1), (43877, 43877, 1), (65856, 65934, 1), (65952, 65952, 1),
  (119296, 119365, 1)]

def scriptGujarati : List Stride := [
  (2689, 2691, 1), (2693, 2701, 1), (2703, 2705, 1), (2707, 2728, 1), (2730, 2736, 1),
  (2738, 2739, 1), (2741, 2745, 1), (2748, 2757, 1), (2759, 2761, 1), (2763, 2765, 1),
  (2768, 2768, 1), (2784, 2787, 1), (2790, 2801, 1), (2809, 2815, 1)]

def scriptGurmukhi : List Stride := [
  (2561, 2563, 1), (2565, 2570, 1), (2575, 2576, 1), (2579, 2600, 1), (2602, 2608, 1),
  (2610, 2611, 1), (2613, 2614, 1), (2616, 2617, 1), (2620, 2620, 1), (2622, 2626, 1),
  (2631, 2632, 1), (2635, 2637, 1), (2641, 2641, 1), (2649, 2652, 1), (2654, 2654, 1),
  (2662, 2678, 1)]

def scriptHangul : List Stride := [
  (4352, 4607, 1), (12334, 12335, 1), (12593, 12686, 1), (12800, 12830, 1), (12896, 12926, 1),
  (43360, 43388, 1), (44032, 55203, 1), (55216, 55238, 1), (55243, 55291, 1), (65440, 65470, 1),
  (65474, 65479, 1), (65482, 65487, 1), (65490, 65495, 1), (65498, 65500, 1)]

def scriptHan : List Stride := [
  (11904, 11929, 1), (11931, 12019, 1), (12032, 12245, 1), (12293, 12293, 1), (12295, 12295, 1),
  (12321, 12329, 1), (12344, 12347, 1), (13312, 19903, 1), (19968, 40959, 1), (63744, 64109, 1),
  (64112, 64217, 1), (94178, 94179, 1), (94192, 94193, 1), (131072, 173791, 1),
  (173824, 177977, 1), (177984, 178205, 1), (178208, 183969, 1), (183984, 191456, 1),
  (194560, 195101, 1), (196608, 201546, 1), (201552, 205743, 1)]

def scriptKatakana : List Stride := [
  (12449, 12538, 1), (12541, 12543, 1), (12784, 12799, 1), (13008, 13054, 1), (13056, 13143, 1),
  (65382, 65391, 1), (65393, 65437, 1), (110576, 110579, 1), (110581, 110587, 1),
  (110589, 110590, 1), (110592, 110592, 1), (110880, 110882, 1), (110933, 110933, 1),
  (110948, 110951, 1)]

def scriptKannada : List Stride := [
  (3200, 3212, 1), (3214, 3216, 1), (3218, 3240, 1), (3242, 3251, 1), (3253, 3257, 1),
  (3260, 3268, 1), (3270, 3272, 1), (3274, 3277, 1), (3285, 3286, 1), (3293, 3294, 1),
  (3296, 3299, 1), (3302, 3311, 1), (3313, 3315, 1)]

def scriptLatin : List Stride := [
  (65, 90, 1), (97, 122, 1), (170, 170, 1), (186, 186, 1), (192, 214, 1), (216, 246, 1),
  (248, 696, 1), (736, 740, 1), (7424, 7461, 1), (7468, 7516, 1), (7522, 7525, 1),
  (7531, 7543, 1), (7545, 7614, 1), (7680, 7935, 1), (8305, 8305, 1), (8319, 8319, 1),
  (8336, 8348, 1), (8490, 8491, 1), (8498, 8498, 1), (8526, 8526, 1), (8544, 8584, 1),
  (11360, 11391, 1), (42786, 42887, 1), (42891, 42954, 1), (42960, 42961, 1), (42963, 42963, 1),
  (42965, 42969, 1), (42994, 43007, 1), (43824, 43866, 1), (43868, 43876, 1), (43878, 43881, 1),
  (64256, 64262, 1), (65313, 65338, 1), (65345, 65370, 1), (67456, 67461, 1), (67463, 67504, 1),
  (67506, 67514, 1), (122624, 122654, 1), (122661, 122666, 1)]

def scriptOriya : List Stride := [
  (2817, 2819, 1), (2821, 2828, 1), (2831, 2832, 1), (2835, 2856, 1), (2858, 2864, 1),
  (2866, 2867, 1), (2869, 2873, 1), (2876, 2884, 1), (2887, 2888, 1), (2891, 2893, 1),
  (2901, 2903, 1), (2908, 2909, 1), (2911, 2915, 1), (2918, 2935, 1)]

def scriptSinhala : List Stride := [
  (3457, 3459, 1), (3461, 3478, 1), (3482, 3505, 1), (3507, 3515, 1), (3517, 3517, 1),
  (3520, 3526, 1), (3530, 3530, 1), (3535, 3540, 1), (3542, 3542, 1), (3544, 3551, 1),
  (3558, 3567, 1), (3570, 3572, 1), (70113, 70132, 1)]

def scriptTamil : List Stride := [
  (2946, 2947, 1), (2949, 2954, 1), (2958, 2960, 1), (2962, 2965, 1), (2969, 2970, 1),
  (2972, 2972, 1), (2974, 2975, 1), (2979, 2980, 1), (2984, 2986, 1), (2990, 3001, 1),
  (3006, 3010, 1), (3014, 3016, 1), (3018, 3021, 1), (3024, 3024, 1), (3031, 3031, 1),
  (3046, 3066, 1), (73664, 73713, 1), (73727, 73727, 1)]

def scriptTelugu : List Stride := [
  (3072, 3084, 1), (3086, 3088, 1), (3090, 3112, 1), (3114, 3129, 1), (3132, 3140, 1),
  (3142, 3144, 1), (3146, 3149, 1), (3157, 3158, 1), (3160, 3162, 1), (3165, 3165, 1),
  (3168, 3171, 1), (3174, 3183, 1), (3191, 3199, 1)]

def scriptInherited : List Stride := [
  (768, 879, 1), (1157, 1158, 1), (1611, 1621, 1), (1648, 1648, 1), (2385, 2388, 1),
  (6832, 6862, 1), (7376, 7378, 1), (7380, 7392, 1), (7394, 7400, 1), (7405, 7405, 1),
  (7412, 7412, 1), (7416, 7417, 1), (7616, 7679, 1), (8204, 8205, 1), (8400, 8432, 1),
  (12330, 12333, 1), (12441, 12442, 1), (65024, 65039, 1), (65056, 65069, 1), (66045, 66045, 1),
  (66272, 66272, 1), (70459, 70459, 1), (118528, 118573, 1), (118576, 118598, 1),
  (119143, 119145, 1), (119163, 119170, 1), (119173, 119179, 1), (119210, 119213, 1),
  (917760, 917999, 1)]

def scriptCommon : List Stride := [
  (0, 64, 1), (91, 96, 1), (123, 169, 1), (171, 185, 1), (187, 191, 1), (215, 215, 1),
  (247, 247, 1), (697, 735, 1), (741, 745, 1), (748, 767, 1), (884, 884, 1), (894, 894, 1),
  (901, 901, 1), (903, 903, 1), (1541, 1541, 1), (1548, 1548, 1), (1563, 1563, 1),
  (1567, 1567, 1), (1600, 1600, 1), (1757, 1757, 1), (2274, 2274, 1), (2404, 2405, 1),
  (3647, 3647, 1), (4053, 4056, 1), (4347, 4347, 1), (5867, 5869, 1), (5941, 5942, 1),
  (6146, 6147, 1), (6149, 6149, 1), (7379, 7379, 1), (7393, 7393, 1), (7401, 7404, 1),
  (7406, 7411, 1), (7413, 7415, 1), (7418, 7418, 1), (8192, 8203, 1), (8206, 8292, 1),
  (8294, 8304, 1), (8308, 8318, 1), (8320, 8334, 1), (8352, 8384, 1), (8448, 8485, 1),
  (8487, 8489, 1), (8492, 8497, 1), (8499, 8525, 1), (8527, 8543, 1), (8585, 8587, 1),
  (8592, 9254, 1), (9280, 9290, 1), (9312, 10239, 1), (10496, 11123, 1), (11126, 11157, 1),
  (11159, 11263, 1), (11776, 11869, 1), (12272, 12283, 1), (12288, 12292, 1), (12294, 12294, 1),
  (12296, 12320, 1), (12336, 12343, 1), (12348, 12351, 1), (12443, 12444, 1), (12448, 12448, 1),
  (12539, 12540, 1), (12688, 12703, 1), (12736, 12771, 1), (12832, 12895, 1), (12927, 13007, 1),
  (13055, 13055, 1), (13144, 13311, 1), (19904, 19967, 1), (42752, 42785, 1), (42888, 42890, 1),
  (43056, 43065, 1), (43310, 43310, 1), (43471, 43471, 1), (43867, 43867, 1), (43882, 43883, 1),
  (64830, 64831, 1), (65040, 65049, 1), (65072, 65106, 1), (65108, 65126, 1), (65128, 65131, 1),
  (65279, 65279, 1), (65281, 65312, 1), (65339, 65344, 1), (65371, 65381, 1), (65392, 65392, 1),
  (65438, 65439, 1), (65504, 65510, 1), (65512, 65518, 1), (65529, 65533, 1), (65792, 65794, 1),
  (65799, 65843, 1), (65847, 65855, 1), (65936, 65948, 1), (66000, 66044, 1), (66273, 66299, 1),
  (113824, 113827, 1), (118608, 118723, 1), (118784, 119029, 1), (119040, 119078, 1),
  (119081, 119142, 1), (119146, 119162, 1), (119171, 119172, 1), (119180, 119209, 1),
  (119214, 119274, 1), (119488, 119507, 1), (119520, 119539, 1), (119552, 119638, 1),
  (119648, 119672, 1), (119808, 119892, 1), (119894, 119964, 1), (119966, 119967, 1),
  (119970, 119970, 1), (119973, 119974, 1), (119977, 119980, 1), (119982, 119993, 1),
  (119995, 119995, 1), (119997, 120003, 1), (120005, 120069, 1), (120071, 120074, 1),
  (120077, 120084, 1), (120086, 120092, 1), (120094, 120121, 1), (120123, 120126, 1),
  (120128, 120132, 1), (120134, 120134, 1), (120138, 120144, 1), (120146, 120485, 1),
  (120488, 120779, 1), (120782, 120831, 1), (126065, 126132, 1), (126209, 126269, 1),
  (126976, 127019, 1), (127024, 127123, 1), (127136, 127150, 1), (127153, 127167, 1),
  (127169, 127183, 1), (127185, 127221, 1), (127232, 127405, 1), (127462, 127487, 1),
  (127489, 127490, 1), (127504, 127547, 1), (127552, 127560, 1), (127568, 127569, 1),
  (127584, 127589, 1), (127744, 128727, 1), (128732, 128748, 1), (128752, 128764, 1),
  (128768, 128886, 1), (128891, 128985, 1), (128992, 129003, 1), (129008, 129008, 1),
  (129024, 129035, 1), (129040, 129095, 1), (129104, 129113, 1), (129120, 129159, 1),
  (129168, 129197, 1), (129200, 129201, 1), (129280, 129619, 1), (129632, 129645, 1),
  (129648, 129660, 1), (129664, 129672, 1), (129680, 129725, 1), (129727, 129733, 1),
  (129742, 129755, 1), (129760, 129768, 1), (129776, 129784, 1), (129792, 129938, 1),
  (129940, 129994, 1), (130032, 130041, 1), (917505, 917505, 1), (917536, 917631, 1)]

/-- The scripts, each under its names in lower case. -/
def scripts : List (List String × List Stride) := [
  (["adlm", "adlam"], [(125184, 125259, 1), (125264, 125273, 1), (125278, 125279, 1)]),
  (["aghb", "caucasianalbanian"], [(66864, 66915, 1), (66927, 66927, 1)]),
  (["ahom"], [(71424, 71450, 1), (71453, 71467, 1), (71472, 71494, 1)]),
  (["arab", "arabic"], scriptArabic),
  (["armi", "imperialaramaic"], [(67648, 67669, 1), (67671, 67679, 1)]),
  (["armn", "armenian"], [(1329, 1366, 1), (1369, 1418, 1), (1421, 1423, 1),
    (64275, 64279, 1)]),
  (["avst", "avestan"], [(68352, 68405, 1), (68409, 68415, 1)]),
  (["bali", "balinese"], [(6912, 6988, 1), (6992, 7038, 1)]),
  (["bamu", "bamum"], [(42656, 42743, 1), (92160, 92728, 1)]),
  (["bass", "bassavah"], [(92880, 92909, 1), (92912, 92917, 1)]),
  (["batk", "batak"], [(7104, 7155, 1), (7164, 7167, 1)]),
  (["beng", "bengali"], scriptBengali),
  (["bhks", "bhaiksuki"], [(72704, 72712, 1), (72714, 72758, 1), (72760, 72773, 1),
    (72784, 72812, 1)]),
  (["bopo", "bopomofo"], [(746, 747, 1), (12549, 12591, 1), (12704, 12735, 1)]),
  (["brah", "brahmi"], [(69632, 69709, 1), (69714, 69749, 1), (69759, 69759, 1)]),
  (["brai", "braille"], [(10240, 10495, 1)]),
  (["bugi", "buginese"], [(6656, 6683, 1), (6686, 6687, 1)]),
  (["buhd", "buhid"], [(5952, 5971, 1)]),
  (["cakm", "chakma"], [(69888, 69940, 1), (69942, 69959, 1)]),
  (["cans", "canadianaboriginal"], [(5120, 5759, 1), (6320, 6389, 1), (72368, 72383, 1)]),
  (["cari", "carian"], [(66208, 66256, 1)]),
  (["cham"], [(43520, 43574, 1), (43584, 43597, 1), (43600, 43609, 1), (43612, 43615, 1)]),
  (["cher", "cherokee"], [(5024, 5109, 1), (5112, 5117, 1), (43888, 43967, 1)]),
  (["chrs", "chorasmian"], [(69552, 69579, 1)]),
  (["copt", "coptic", "qaac"], [(994, 1007, 1), (11392, 11507, 1), (11513, 11519, 1)]),
  (["cpmn", "cyprominoan"], [(77712, 77810, 1)]),
  (["cprt", "cypriot"], [(67584, 67589, 1), (67592, 67592, 1), (67594, 67637, 1),
    (67639, 67640, 1), (67644, 67644, 1), (67647, 67647, 1)]),
  (["cyrl", "cyrillic"], [(1024, 1156, 1), (1159, 1327, 1), (7296, 7304, 1), (7467, 7467, 1),
    (7544, 7544, 1), (11744, 11775, 1), (42560, 42655, 1), (65070, 65071, 1),
    (122928, 122989, 1), (123023, 123023, 1)]),
  (["deva", "devanagari"], [(2304, 2384, 1), (2389, 2403, 1), (2406, 2431, 1),
    (43232, 43263, 1), (72448, 72457, 1)]),
  (["diak", "divesakuru"], [(71936, 71942, 1), (71945, 71945, 1), (71948, 71955, 1),
    (71957, 71958, 1), (71960, 71989, 1), (71991, 71992, 1), (71995, 72006, 1),
    (72016, 72025, 1)]),
  (["dogr", "dogra"], [(71680, 71739, 1)]),
  (["dsrt", "deseret"], [(66560, 66639, 1)]),
  (["dupl", "duployan"], [(113664, 113770, 1), (113776, 113788, 1), (113792, 113800, 1),
    (113808, 113817, 1), (113820, 113823, 1)]),
  (["egyp", "egyptianhieroglyphs"], [(77824, 78933, 1)]),
  (["elba", "elbasan"], [(66816, 66855, 1)]),
  (["elym", "elymaic"], [(69600, 69622, 1)]),
  (["ethi", "ethiopic"], scriptEthiopic),
  (["geor", "georgian"], [(4256, 4293, 1), (4295, 4295, 1), (4301, 4301, 1), (4304, 4346, 1),
    (4348, 4351, 1), (7312, 7354, 1), (7357, 7359, 1), (11520, 11557, 1), (11559, 11559, 1),
    (11565, 11565, 1)]),
  (["glag", "glagolitic"], [(11264, 11359, 1), (122880, 122886, 1), (122888, 122904, 1),
    (122907, 122913, 1), (122915, 122916, 1), (122918, 122922, 1)]),
  (["gong", "gunjalagondi"], [(73056, 73061, 1), (73063, 73064, 1), (73066, 73102, 1),
    (73104, 73105, 1), (73107, 73112, 1), (73120, 73129, 1)]),
  (["gonm", "masaramgondi"], [(72960, 72966, 1), (72968, 72969, 1), (72971, 73014, 1),
    (73018, 73018, 1), (73020, 73021, 1), (73023, 73031, 1), (73040, 73049, 1)]),
  (["goth", "gothic"], [(66352, 66378, 1)]),
  (["gran", "grantha"], scriptGrantha),
  (["grek", "greek"], scriptGreek),
  (["gujr", "gujarati"], scriptGujarati),
  (["guru", "gurmukhi"], scriptGurmukhi),
  (["hang", "hangul"], scriptHangul),
  (["hani", "han"], scriptHan),
  (["hano", "hanunoo"], [(5920, 5940, 1)]),
  (["hatr", "hatran"], [(67808, 67826, 1), (67828, 67829, 1), (67835, 67839, 1)]),
  (["hebr", "hebrew"], [(1425, 1479, 1), (1488, 1514, 1), (1519, 1524, 1), (64285, 64310, 1),
    (64312, 64316, 1), (64318, 64318, 1), (64320, 64321, 1), (64323, 64324, 1),
    (64326, 64335, 1)]),
  (["hira", "hiragana"], [(12353, 12438, 1), (12445, 12447, 1), (110593, 110879, 1),
    (110898, 110898, 1), (110928, 110930, 1), (127488, 127488, 1)]),
  (["hluw", "anatolianhieroglyphs"], [(82944, 83526, 1)]),
  (["hmng", "pahawhhmong"], [(92928, 92997, 1), (93008, 93017, 1), (93019, 93025, 1),
    (93027, 93047, 1), (93053, 93071, 1)]),
  (["hmnp", "nyiakengpuachuehmong"], [(123136, 123180, 1), (123184, 123197, 1),
    (123200, 123209, 1), (123214, 123215, 1)]),
  (["hung", "oldhungarian"], [(68736, 68786, 1), (68800, 68850, 1), (68858, 68863, 1)]),
  (["ital", "olditalic"], [(66304, 66339, 1), (66349, 66351, 1)]),
  (["java", "javanese"], [(43392, 43469, 1), (43472, 43481, 1), (43486, 43487, 1)]),
  (["kali", "kayahli"], [(43264, 43309, 1), (43311, 43311, 1)]),
  (["kana", "katakana"], scriptKatakana),
  (["kawi"], [(73472, 73488, 1), (73490, 73530, 1), (73534, 73561, 1)]),
  (["khar", "kharoshthi"], [(68096, 68099, 1), (68101, 68102, 1), (68108, 68115, 1),
    (68117, 68119, 1), (68121, 68149, 1), (68152, 68154, 1), (68159, 68168, 1),
    (68176, 68184, 1)]),
  (["khmr", "khmer"], [(6016, 6109, 1), (6112, 6121, 1), (6128, 6137, 1), (6624, 6655, 1)]),
  (["khoj", "khojki"], [(70144, 70161, 1), (70163, 70209, 1)]),
  (["kits", "khitansmallscript"], [(94180, 94180, 1), (101120, 101589, 1)]),
  (["knda", "kannada"], scriptKannada),
  (["kthi", "kaithi"], [(69760, 69826, 1), (69837, 69837, 1)]),
  (["lana", "taitham"], [(6688, 6750, 1), (6752, 6780, 1), (6783, 6793, 1), (6800, 6809, 1),
    (6816, 6829, 1)]),
  (["laoo", "lao"], [(3713, 3714, 1), (3716, 3716, 1), (3718, 3722, 1), (3724, 3747, 1),
    (3749, 3749, 1), (3751, 3773, 1), (3776, 3780, 1), (3782, 3782, 1), (3784, 3790, 1),
    (3792, 3801, 1), (3804, 3807, 1)]),
  (["latn", "latin"], scriptLatin),
  (["lepc", "lepcha"], [(7168, 7223, 1), (7227, 7241, 1), (7245, 7247, 1)]),
  (["limb", "limbu"], [(6400, 6430, 1), (6432, 6443, 1), (6448, 6459, 1), (6464, 6464, 1),
    (6468, 6479, 1)]),
  (["lina", "lineara"], [(67072, 67382, 1), (67392, 67413, 1), (67424, 67431, 1)]),
  (["linb", "linearb"], [(65536, 65547, 1), (65549, 65574, 1), (65576, 65594, 1),
    (65596, 65597, 1), (65599, 65613, 1), (65616, 65629, 1), (65664, 65786, 1)]),
  (["lisu"], [(42192, 42239, 1), (73648, 73648, 1)]),
  (["lyci", "lycian"], [(66176, 66204, 1)]),
  (["lydi", "lydian"], [(67872, 67897, 1), (67903, 67903, 1)]),
  (["mahj", "mahajani"], [(69968, 70006, 1)]),
  (["maka", "makasar"], [(73440, 73464, 1)]),
  (["mand", "mandaic"], [(2112, 2139, 1), (2142, 2142, 1)]),
  (["mani", "manichaean"], [(68288, 68326, 1), (68331, 68342, 1)]),
  (["marc", "marchen"], [(72816, 72847, 1), (72850, 72871, 1), (72873, 72886, 1)]),
  (["medf", "medefaidrin"], [(93760, 93850, 1)]),
  (["mend", "mendekikakui"], [(124928, 125124, 1), (125127, 125142, 1)]),
  (["merc", "meroiticcursive"], [(68000, 68023, 1), (68028, 68047, 1), (68050, 68095, 1)]),
  (["mero", "meroitichieroglyphs"], [(67968, 67999, 1)]),
  (["mlym", "malayalam"], [(3328, 3340, 1), (3342, 3344, 1), (3346, 3396, 1), (3398, 3400, 1),
    (3402, 3407, 1), (3412, 3427, 1), (3430, 3455, 1)]),
  (["modi"], [(71168, 71236, 1), (71248, 71257, 1)]),
  (["mong", "mongolian"], [(6144, 6145, 1), (6148, 6148, 1), (6150, 6169, 1), (6176, 6264, 1),
    (6272, 6314, 1), (71264, 71276, 1)]),
  (["mroo", "mro"], [(92736, 92766, 1), (92768, 92777, 1), (92782, 92783, 1)]),
  (["mtei", "meeteimayek"], [(43744, 43766, 1), (43968, 44013, 1), (44016, 44025, 1)]),
  (["mult", "multani"], [(70272, 70278, 1), (70280, 70280, 1), (70282, 70285, 1),
    (70287, 70301, 1), (70303, 70313, 1)]),
  (["mymr", "myanmar"], [(4096, 4255, 1), (43488, 43518, 1), (43616, 43647, 1)]),
  (["nagm", "nagmundari"], [(124112, 124153, 1)]),
  (["nand", "nandinagari"], [(72096, 72103, 1), (72106, 72151, 1), (72154, 72164, 1)]),
  (["narb", "oldnortharabian"], [(68224, 68255, 1)]),
  (["nbat", "nabataean"], [(67712, 67742, 1), (67751, 67759, 1)]),
  (["newa"], [(70656, 70747, 1), (70749, 70753, 1)]),
  (["nkoo", "nko"], [(1984, 2042, 1), (2045, 2047, 1)]),
  (["nshu", "nushu"], [(94177, 94177, 1), (110960, 111355, 1)]),
  (["ogam", "ogham"], [(5760, 5788, 1)]),
  (["olck", "olchiki"], [(7248, 7295, 1)]),
  (["orkh", "oldturkic"], [(68608, 68680, 1)]),
  (["orya", "oriya"], scriptOriya),
  (["osge", "osage"], [(66736, 66771, 1), (66776, 66811, 1)]),
  (["osma", "osmanya"], [(66688, 66717, 1), (66720, 66729, 1)]),
  (["ougr", "olduyghur"], [(69488, 69513, 1)]),
  (["palm", "palmyrene"], [(67680, 67711, 1)]),
  (["pauc", "paucinhau"], [(72384, 72440, 1)]),
  (["perm", "oldpermic"], [(66384, 66426, 1)]),
  (["phag", "phagspa"], [(43072, 43127, 1)]),
  (["phli", "inscriptionalpahlavi"], [(68448, 68466, 1), (68472, 68479, 1)]),
  (["phlp", "psalterpahlavi"], [(68480, 68497, 1), (68505, 68508, 1), (68521, 68527, 1)]),
  (["phnx", "phoenician"], [(67840, 67867, 1), (67871, 67871, 1)]),
  (["plrd", "miao"], [(93952, 94026, 1), (94031, 94087, 1), (94095, 94111, 1)]),
  (["prti", "inscriptionalparthian"], [(68416, 68437, 1), (68440, 68447, 1)]),
  (["rjng", "rejang"], [(43312, 43347, 1), (43359, 43359, 1)]),
  (["rohg", "hanifirohingya"], [(68864, 68903, 1), (68912, 68921, 1)]),
  (["runr", "runic"], [(5792, 5866, 1), (5870, 5880, 1)]),
  (["samr", "samaritan"], [(2048, 2093, 1), (2096, 2110, 1)]),
  (["sarb", "oldsoutharabian"], [(68192, 68223, 1)]),
  (["saur", "saurashtra"], [(43136, 43205, 1), (43214, 43225, 1)]),
  (["sgnw", "signwriting"], [(120832, 121483, 1), (121499, 121503, 1), (121505, 121519, 1)]),
  (["shaw", "shavian"], [(66640, 66687, 1)]),
  (["shrd", "sharada"], [(70016, 70111, 1)]),
  (["sidd", "siddham"], [(71040, 71093, 1), (71096, 71133, 1)]),
  (["sind", "khudawadi"], [(70320, 70378, 1), (70384, 70393, 1)]),
  (["sinh", "sinhala"], scriptSinhala),
  (["sogd", "sogdian"], [(69424, 69465, 1)]),
  (["sogo", "oldsogdian"], [(69376, 69415, 1)]),
  (["sora", "sorasompeng"], [(69840, 69864, 1), (69872, 69881, 1)]),
  (["soyo", "soyombo"], [(72272, 72354, 1)]),
  (["sund", "sundanese"], [(7040, 7103, 1), (7360, 7367, 1)]),
  (["sylo", "sylotinagri"], [(43008, 43052, 1)]),
  (["syrc", "syriac"], [(1792, 1805, 1), (1807, 1866, 1), (1869, 1871, 1), (2144, 2154, 1)]),
  (["tagb", "tagbanwa"], [(5984, 5996, 1), (5998, 6000, 1), (6002, 6003, 1)]),
  (["takr", "takri"], [(71296, 71353, 1), (71360, 71369, 1)]),
  (["tale", "taile"], [(6480, 6509, 1), (6512, 6516, 1)]),
  (["talu", "newtailue"], [(6528, 6571, 1), (6576, 6601, 1), (6608, 6618, 1), (6622, 6623, 1)]),
  (["taml", "tamil"], scriptTamil),
  (["tang", "tangut"], [(94176, 94176, 1), (94208, 100343, 1), (100352, 101119, 1),
    (101632, 101640, 1)]),
  (["tavt", "taiviet"], [(43648, 43714, 1), (43739, 43743, 1)]),
  (["telu", "telugu"], scriptTelugu),
  (["tfng", "tifinagh"], [(11568, 11623, 1), (11631, 11632, 1), (11647, 11647, 1)]),
  (["tglg", "tagalog"], [(5888, 5909, 1), (5919, 5919, 1)]),
  (["thaa", "thaana"], [(1920, 1969, 1)]),
  (["thai"], [(3585, 3642, 1), (3648, 3675, 1)]),
  (["tibt", "tibetan"], [(3840, 3911, 1), (3913, 3948, 1), (3953, 3991, 1), (3993, 4028, 1),
    (4030, 4044, 1), (4046, 4052, 1), (4057, 4058, 1)]),
  (["tirh", "tirhuta"], [(70784, 70855, 1), (70864, 70873, 1)]),
  (["tnsa", "tangsa"], [(92784, 92862, 1), (92864, 92873, 1)]),
  (["toto"], [(123536, 123566, 1)]),
  (["ugar", "ugaritic"], [(66432, 66461, 1), (66463, 66463, 1)]),
  (["vaii", "vai"], [(42240, 42539, 1)]),
  (["vith", "vithkuqi"], [(66928, 66938, 1), (66940, 66954, 1), (66956, 66962, 1),
    (66964, 66965, 1), (66967, 66977, 1), (66979, 66993, 1), (66995, 67001, 1),
    (67003, 67004, 1)]),
  (["wara", "warangciti"], [(71840, 71922, 1), (71935, 71935, 1)]),
  (["wcho", "wancho"], [(123584, 123641, 1), (123647, 123647, 1)]),
  (["xpeo", "oldpersian"], [(66464, 66499, 1), (66504, 66517, 1)]),
  (["xsux", "cuneiform"], [(73728, 74649, 1), (74752, 74862, 1), (74864, 74868, 1),
    (74880, 75075, 1)]),
  (["yezi", "yezidi"], [(69248, 69289, 1), (69291, 69293, 1), (69296, 69297, 1)]),
  (["yiii", "yi"], [(40960, 42124, 1), (42128, 42182, 1)]),
  (["zanb", "zanabazarsquare"], [(72192, 72263, 1)]),
  (["zinh", "inherited", "qaai"], scriptInherited),
  (["zyyy", "common"], scriptCommon)]

end ComponentCatalog.Unicode
