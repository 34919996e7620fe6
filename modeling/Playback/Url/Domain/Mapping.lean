import Playback.Text.Intervals

/-!
# Mapping of host name characters

The compatibility mapping of internationalised host names: characters replaced by one character in
runs or singly, characters replaced by several, and characters that are dropped or refused.
-/

namespace Playback.Url.Domain

open Text

/-- Replacements that shift a run of characters. -/
def shifts : List ShiftRun := [
  ⟨65, 90, 1, 32⟩, ⟨178, 179, 1, -128⟩, ⟨192, 214, 1, 32⟩, ⟨216, 222, 1, 32⟩, ⟨256, 302, 2, 1⟩,
  ⟨308, 310, 2, 1⟩, ⟨313, 317, 2, 1⟩, ⟨321, 327, 2, 1⟩, ⟨330, 374, 2, 1⟩, ⟨377, 381, 2, 1⟩,
  ⟨386, 388, 2, 1⟩, ⟨393, 394, 1, 205⟩, ⟨416, 420, 2, 1⟩, ⟨433, 434, 1, 217⟩, ⟨435, 437, 2, 1⟩,
  ⟨461, 475, 2, 1⟩, ⟨478, 494, 2, 1⟩, ⟨504, 542, 2, 1⟩, ⟨546, 562, 2, 1⟩, ⟨582, 590, 2, 1⟩,
  ⟨832, 833, 1, -64⟩, ⟨880, 882, 2, 1⟩, ⟨904, 906, 1, 37⟩, ⟨910, 911, 1, 63⟩, ⟨913, 929, 1, 32⟩,
  ⟨931, 939, 1, 32⟩, ⟨984, 1006, 2, 1⟩, ⟨1021, 1023, 1, -130⟩, ⟨1024, 1039, 1, 80⟩,
  ⟨1040, 1071, 1, 32⟩, ⟨1120, 1152, 2, 1⟩, ⟨1162, 1214, 2, 1⟩, ⟨1217, 1229, 2, 1⟩,
  ⟨1232, 1326, 2, 1⟩, ⟨1329, 1366, 1, 48⟩, ⟨4256, 4293, 1, 7264⟩, ⟨5112, 5117, 1, -8⟩,
  ⟨7299, 7300, 1, -6210⟩, ⟨7312, 7354, 1, -3008⟩, ⟨7357, 7359, 1, -3008⟩, ⟨7470, 7472, 2, -7372⟩,
  ⟨7475, 7482, 1, -7372⟩, ⟨7488, 7489, 1, -7372⟩, ⟨7492, 7493, 1, -6900⟩, ⟨7496, 7497, 1, -7396⟩,
  ⟨7499, 7500, 1, -6896⟩, ⟨7508, 7509, 1, -62⟩, ⟨7511, 7512, 1, -7395⟩, ⟨7517, 7519, 1, -6571⟩,
  ⟨7520, 7521, 1, -6554⟩, ⟨7524, 7525, 1, -7407⟩, ⟨7526, 7527, 1, -6580⟩, ⟨7529, 7530, 1, -6563⟩,
  ⟨7588, 7590, 1, -6972⟩, ⟨7598, 7601, 1, -6972⟩, ⟨7603, 7604, 1, -6961⟩, ⟨7606, 7607, 1, -6957⟩,
  ⟨7609, 7610, 1, -6958⟩, ⟨7612, 7614, 1, -6956⟩, ⟨7680, 7828, 2, 1⟩, ⟨7840, 7934, 2, 1⟩,
  ⟨7944, 7951, 1, -8⟩, ⟨7960, 7965, 1, -8⟩, ⟨7976, 7983, 1, -8⟩, ⟨7992, 7999, 1, -8⟩,
  ⟨8008, 8013, 1, -8⟩, ⟨8025, 8031, 2, -8⟩, ⟨8040, 8047, 1, -8⟩, ⟨8120, 8121, 1, -8⟩,
  ⟨8152, 8153, 1, -8⟩, ⟨8168, 8169, 1, -8⟩, ⟨8308, 8313, 1, -8256⟩, ⟨8317, 8318, 1, -8277⟩,
  ⟨8320, 8329, 1, -8272⟩, ⟨8333, 8334, 1, -8293⟩, ⟨8342, 8345, 1, -8235⟩, ⟨8347, 8348, 1, -8232⟩,
  ⟨8458, 8459, 1, -8355⟩, ⟨8467, 8469, 2, -8359⟩, ⟨8473, 8475, 1, -8361⟩, ⟨8492, 8493, 1, -8394⟩,
  ⟨8496, 8497, 1, -8395⟩, ⟨8501, 8504, 1, -7013⟩, ⟨8518, 8519, 1, -8418⟩, ⟨8520, 8521, 1, -8415⟩,
  ⟨8557, 8558, 1, -8458⟩, ⟨8573, 8574, 1, -8474⟩, ⟨9001, 9002, 1, 3295⟩, ⟨9312, 9320, 1, -9263⟩,
  ⟨9398, 9423, 1, -9301⟩, ⟨9424, 9449, 1, -9327⟩, ⟨11264, 11311, 1, 48⟩, ⟨11367, 11371, 2, 1⟩,
  ⟨11390, 11391, 1, -10815⟩, ⟨11392, 11490, 2, 1⟩, ⟨11499, 11501, 2, 1⟩, ⟨12345, 12346, 1, 8971⟩,
  ⟨12593, 12594, 1, -8241⟩, ⟨12597, 12598, 1, -8073⟩, ⟨12599, 12601, 1, -8244⟩,
  ⟨12602, 12607, 1, -8074⟩, ⟨12609, 12611, 1, -8251⟩, ⟨12613, 12622, 1, -8252⟩,
  ⟨12623, 12643, 1, -8174⟩, ⟨12645, 12646, 1, -8273⟩, ⟨12647, 12648, 1, -8096⟩,
  ⟨12657, 12658, 1, -8276⟩, ⟨12660, 12661, 1, -8274⟩, ⟨12664, 12668, 1, -8269⟩,
  ⟨12674, 12675, 1, -8081⟩, ⟨12676, 12678, 1, -8237⟩, ⟨12679, 12680, 1, -8195⟩,
  ⟨12682, 12683, 1, -8185⟩, ⟨12897, 12898, 1, -8543⟩, ⟨12899, 12901, 1, -8542⟩,
  ⟨12903, 12904, 1, -8540⟩, ⟨12905, 12909, 1, -8539⟩, ⟨13012, 13013, 1, -554⟩,
  ⟨13028, 13033, 1, -538⟩, ⟨13038, 13042, 1, -528⟩, ⟨13045, 13050, 1, -525⟩,
  ⟨13051, 13054, 1, -524⟩, ⟨42560, 42604, 2, 1⟩, ⟨42624, 42650, 2, 1⟩, ⟨42786, 42798, 2, 1⟩,
  ⟨42802, 42862, 2, 1⟩, ⟨42873, 42875, 2, 1⟩, ⟨42878, 42886, 2, 1⟩, ⟨42896, 42898, 2, 1⟩,
  ⟨42902, 42920, 2, 1⟩, ⟨42932, 42946, 2, 1⟩, ⟨42951, 42953, 2, 1⟩, ⟨42956, 42970, 2, 1⟩,
  ⟨43888, 43967, 1, -38864⟩, ⟨64082, 64083, 1, -32965⟩, ⟨64290, 64291, 1, -62799⟩,
  ⟨64292, 64294, 1, -62793⟩, ⟨64381, 64382, 1, -62711⟩, ⟨64415, 64416, 1, -62693⟩,
  ⟨64421, 64422, 1, -62693⟩, ⟨64431, 64432, 1, -62685⟩, ⟨65043, 65044, 1, -64985⟩,
  ⟨65047, 65048, 1, -52737⟩, ⟨65077, 65078, 1, -65037⟩, ⟨65081, 65082, 1, -52773⟩,
  ⟨65083, 65084, 1, -52779⟩, ⟨65085, 65086, 1, -52787⟩, ⟨65087, 65088, 1, -52791⟩,
  ⟨65089, 65092, 1, -52789⟩, ⟨65113, 65114, 1, -65073⟩, ⟨65117, 65118, 1, -52809⟩,
  ⟨65121, 65122, 1, -65079⟩, ⟨65129, 65130, 1, -65093⟩, ⟨65152, 65153, 1, -63583⟩,
  ⟨65154, 65155, 1, -63584⟩, ⟨65156, 65157, 1, -63585⟩, ⟨65158, 65159, 1, -63586⟩,
  ⟨65160, 65161, 1, -63587⟩, ⟨65164, 65165, 1, -63590⟩, ⟨65166, 65167, 1, -63591⟩,
  ⟨65170, 65171, 1, -63594⟩, ⟨65172, 65173, 1, -63595⟩, ⟨65176, 65177, 1, -63598⟩,
  ⟨65180, 65181, 1, -63601⟩, ⟨65184, 65185, 1, -63604⟩, ⟨65188, 65189, 1, -63607⟩,
  ⟨65192, 65193, 1, -63610⟩, ⟨65194, 65195, 1, -63611⟩, ⟨65196, 65197, 1, -63612⟩,
  ⟨65198, 65199, 1, -63613⟩, ⟨65200, 65201, 1, -63614⟩, ⟨65204, 65205, 1, -63617⟩,
  ⟨65208, 65209, 1, -63620⟩, ⟨65212, 65213, 1, -63623⟩, ⟨65216, 65217, 1, -63626⟩,
  ⟨65220, 65221, 1, -63629⟩, ⟨65224, 65225, 1, -63632⟩, ⟨65228, 65229, 1, -63635⟩,
  ⟨65236, 65237, 1, -63635⟩, ⟨65240, 65241, 1, -63638⟩, ⟨65244, 65245, 1, -63641⟩,
  ⟨65248, 65249, 1, -63644⟩, ⟨65252, 65253, 1, -63647⟩, ⟨65256, 65257, 1, -63650⟩,
  ⟨65260, 65261, 1, -63653⟩, ⟨65262, 65263, 1, -63654⟩, ⟨65264, 65265, 1, -63655⟩,
  ⟨65281, 65312, 1, -65248⟩, ⟨65313, 65338, 1, -65216⟩, ⟨65339, 65374, 1, -65248⟩,
  ⟨65375, 65376, 1, -54746⟩, ⟨65378, 65379, 1, -53078⟩, ⟨65397, 65398, 1, -52939⟩,
  ⟨65413, 65418, 1, -52923⟩, ⟨65423, 65427, 1, -52913⟩, ⟨65430, 65435, 1, -52910⟩,
  ⟨65438, 65439, 1, -52997⟩, ⟨65441, 65442, 1, -61089⟩, ⟨65445, 65446, 1, -60921⟩,
  ⟨65447, 65449, 1, -61092⟩, ⟨65450, 65455, 1, -60922⟩, ⟨65457, 65459, 1, -61099⟩,
  ⟨65461, 65470, 1, -61100⟩, ⟨65474, 65479, 1, -61025⟩, ⟨65482, 65487, 1, -61027⟩,
  ⟨65490, 65495, 1, -61029⟩, ⟨65498, 65500, 1, -61031⟩, ⟨65504, 65505, 1, -65342⟩,
  ⟨65513, 65516, 1, -56921⟩, ⟨66560, 66599, 1, 40⟩, ⟨66736, 66771, 1, 40⟩, ⟨66928, 66938, 1, 39⟩,
  ⟨66940, 66954, 1, 39⟩, ⟨66956, 66962, 1, 39⟩, ⟨66964, 66965, 1, 39⟩, ⟨67457, 67458, 1, -66737⟩,
  ⟨67467, 67468, 1, -66869⟩, ⟨67481, 67482, 1, -66799⟩, ⟨67491, 67492, 1, -66861⟩,
  ⟨67496, 67497, 1, -66859⟩, ⟨67507, 67508, 1, -66834⟩, ⟨67510, 67512, 1, -67062⟩,
  ⟨68736, 68786, 1, 64⟩, ⟨68944, 68965, 1, 32⟩, ⟨71840, 71871, 1, 32⟩, ⟨93760, 93791, 1, 32⟩,
  ⟨93856, 93880, 1, 27⟩, ⟨117974, 117999, 1, -117877⟩, ⟨118000, 118009, 1, -117952⟩,
  ⟨119808, 119833, 1, -119711⟩, ⟨119834, 119859, 1, -119737⟩, ⟨119860, 119885, 1, -119763⟩,
  ⟨119886, 119892, 1, -119789⟩, ⟨119894, 119911, 1, -119789⟩, ⟨119912, 119937, 1, -119815⟩,
  ⟨119938, 119963, 1, -119841⟩, ⟨119964, 119966, 2, -119867⟩, ⟨119973, 119974, 1, -119867⟩,
  ⟨119977, 119980, 1, -119867⟩, ⟨119982, 119989, 1, -119867⟩, ⟨119990, 119993, 1, -119893⟩,
  ⟨119995, 119997, 2, -119893⟩, ⟨119998, 120003, 1, -119893⟩, ⟨120005, 120015, 1, -119893⟩,
  ⟨120016, 120041, 1, -119919⟩, ⟨120042, 120067, 1, -119945⟩, ⟨120068, 120069, 1, -119971⟩,
  ⟨120071, 120074, 1, -119971⟩, ⟨120077, 120084, 1, -119971⟩, ⟨120086, 120092, 1, -119971⟩,
  ⟨120094, 120119, 1, -119997⟩, ⟨120120, 120121, 1, -120023⟩, ⟨120123, 120126, 1, -120023⟩,
  ⟨120128, 120132, 1, -120023⟩, ⟨120138, 120144, 1, -120023⟩, ⟨120146, 120171, 1, -120049⟩,
  ⟨120172, 120197, 1, -120075⟩, ⟨120198, 120223, 1, -120101⟩, ⟨120224, 120249, 1, -120127⟩,
  ⟨120250, 120275, 1, -120153⟩, ⟨120276, 120301, 1, -120179⟩, ⟨120302, 120327, 1, -120205⟩,
  ⟨120328, 120353, 1, -120231⟩, ⟨120354, 120379, 1, -120257⟩, ⟨120380, 120405, 1, -120283⟩,
  ⟨120406, 120431, 1, -120309⟩, ⟨120432, 120457, 1, -120335⟩, ⟨120458, 120483, 1, -120361⟩,
  ⟨120488, 120504, 1, -119543⟩, ⟨120506, 120512, 1, -119543⟩, ⟨120514, 120530, 1, -119569⟩,
  ⟨120532, 120538, 1, -119569⟩, ⟨120546, 120562, 1, -119601⟩, ⟨120564, 120570, 1, -119601⟩,
  ⟨120572, 120588, 1, -119627⟩, ⟨120590, 120596, 1, -119627⟩, ⟨120604, 120620, 1, -119659⟩,
  ⟨120622, 120628, 1, -119659⟩, ⟨120630, 120646, 1, -119685⟩, ⟨120648, 120654, 1, -119685⟩,
  ⟨120662, 120678, 1, -119717⟩, ⟨120680, 120686, 1, -119717⟩, ⟨120688, 120704, 1, -119743⟩,
  ⟨120706, 120712, 1, -119743⟩, ⟨120720, 120736, 1, -119775⟩, ⟨120738, 120744, 1, -119775⟩,
  ⟨120746, 120762, 1, -119801⟩, ⟨120764, 120770, 1, -119801⟩, ⟨120782, 120791, 1, -120734⟩,
  ⟨120792, 120801, 1, -120744⟩, ⟨120802, 120811, 1, -120754⟩, ⟨120812, 120821, 1, -120764⟩,
  ⟨120822, 120831, 1, -120774⟩, ⟨122928, 122936, 1, -121856⟩, ⟨122937, 122939, 1, -121855⟩,
  ⟨122940, 122950, 1, -121854⟩, ⟨122952, 122953, 1, -121851⟩, ⟨122961, 122969, 1, -121889⟩,
  ⟨122970, 122971, 1, -121888⟩, ⟨122972, 122973, 1, -121886⟩, ⟨122975, 122980, 1, -121884⟩,
  ⟨122981, 122982, 1, -121883⟩, ⟨125184, 125217, 1, 34⟩, ⟨126464, 126465, 1, -124889⟩,
  ⟨126474, 126477, 1, -124871⟩, ⟨126485, 126486, 1, -124907⟩, ⟨126506, 126509, 1, -124903⟩,
  ⟨126517, 126518, 1, -124939⟩, ⟨126539, 126541, 2, -124935⟩, ⟨126570, 126572, 2, -124967⟩,
  ⟨126581, 126582, 1, -125003⟩, ⟨126592, 126593, 1, -125017⟩, ⟨126596, 126597, 1, -124989⟩,
  ⟨126603, 126605, 1, -124999⟩, ⟨126613, 126614, 1, -125035⟩, ⟨126635, 126637, 1, -125031⟩,
  ⟨126645, 126646, 1, -125067⟩, ⟨127280, 127305, 1, -127183⟩, ⟨130032, 130041, 1, -129984⟩,
  ⟨194601, 194602, 1, -173348⟩, ⟨194689, 194690, 1, -170656⟩, ⟨194805, 194806, 1, -167227⟩,
  ⟨194885, 194886, 1, -164391⟩, ⟨195048, 195049, 1, -157457⟩]

/-- Replacements of one character by one other. -/
def replacements : List (Nat × Nat) := [
  (160, 32), (170, 97), (181, 956), (185, 49), (186, 111), (376, 255), (383, 115), (385, 595),
  (390, 596), (391, 392), (395, 396), (398, 477), (399, 601), (400, 603), (401, 402), (403, 608),
  (404, 611), (406, 617), (407, 616), (408, 409), (412, 623), (413, 626), (415, 629), (422, 640),
  (423, 424), (425, 643), (428, 429), (430, 648), (431, 432), (439, 658), (440, 441), (444, 445),
  (500, 501), (502, 405), (503, 447), (544, 414), (570, 11365), (571, 572), (573, 410),
  (574, 11366), (577, 578), (579, 384), (580, 649), (581, 652), (688, 104), (689, 614),
  (690, 106), (691, 114), (692, 633), (693, 635), (694, 641), (695, 119), (696, 121), (736, 611),
  (737, 108), (738, 115), (739, 120), (740, 661), (835, 787), (837, 953), (884, 697), (886, 887),
  (894, 59), (895, 1011), (902, 940), (903, 183), (908, 972), (975, 983), (976, 946), (977, 952),
  (978, 965), (979, 973), (980, 971), (981, 966), (982, 960), (1008, 954), (1009, 961),
  (1010, 963), (1012, 952), (1013, 949), (1015, 1016), (1017, 963), (1018, 1019), (1216, 1231),
  (3852, 3851), (4295, 11559), (4301, 11565), (4348, 4316), (7296, 1074), (7297, 1076),
  (7298, 1086), (7301, 1090), (7302, 1098), (7303, 1123), (7304, 42571), (7305, 7306), (7468, 97),
  (7469, 230), (7473, 101), (7474, 477), (7484, 111), (7485, 547), (7486, 112), (7487, 114),
  (7490, 119), (7491, 97), (7494, 7426), (7495, 98), (7498, 601), (7501, 103), (7503, 107),
  (7504, 109), (7505, 331), (7506, 111), (7507, 596), (7510, 112), (7513, 7453), (7514, 623),
  (7515, 118), (7516, 7461), (7522, 105), (7523, 114), (7528, 961), (7544, 1085), (7579, 594),
  (7580, 99), (7581, 597), (7582, 240), (7583, 604), (7584, 102), (7585, 607), (7586, 609),
  (7587, 613), (7591, 7547), (7592, 669), (7593, 621), (7594, 7557), (7595, 671), (7596, 625),
  (7597, 624), (7602, 632), (7605, 427), (7608, 7452), (7611, 122), (7615, 952), (7835, 7777),
  (7838, 223), (8049, 940), (8051, 941), (8053, 942), (8055, 943), (8057, 972), (8059, 973),
  (8061, 974), (8122, 8048), (8123, 940), (8126, 953), (8136, 8050), (8137, 941), (8138, 8052),
  (8139, 942), (8147, 912), (8154, 8054), (8155, 943), (8163, 944), (8170, 8058), (8171, 973),
  (8172, 8165), (8175, 96), (8184, 8056), (8185, 972), (8186, 8060), (8187, 974), (8450, 99),
  (8455, 603), (8460, 104), (8461, 104), (8462, 104), (8463, 295), (8464, 105), (8465, 105),
  (8466, 108), (8476, 114), (8477, 114), (8484, 122), (8486, 969), (8488, 122), (8490, 107),
  (8491, 229), (8495, 101), (8498, 8526), (8499, 109), (8500, 111), (8505, 105), (8508, 960),
  (8509, 947), (8510, 947), (8511, 960), (8512, 8721), (8517, 100), (8544, 105), (8548, 118),
  (8553, 120), (8556, 108), (8559, 109), (8560, 105), (8564, 118), (8569, 120), (8572, 108),
  (8575, 109), (8579, 8580), (42652, 1098), (42653, 1100), (42864, 42863), (42877, 7545),
  (42891, 42892), (42893, 613), (42922, 614), (42923, 604), (42924, 609), (42925, 620),
  (42926, 618), (42928, 670), (42929, 647), (42930, 669), (42931, 43859), (42948, 42900),
  (42949, 642), (42950, 7566), (42955, 612), (42972, 411), (42993, 115), (42994, 99),
  (42995, 102), (42996, 113), (42997, 42998), (43000, 295), (43001, 339), (65377, 46),
  (65380, 12289), (65381, 12539), (65382, 12530), (65383, 12449), (65384, 12451), (65385, 12453),
  (65386, 12455), (65387, 12457), (65388, 12515), (65389, 12517), (65390, 12519), (65391, 12483),
  (65392, 12540), (65393, 12450), (65394, 12452), (65395, 12454), (65396, 12456), (65399, 12461),
  (65400, 12463), (65401, 12465), (65402, 12467), (65403, 12469), (65404, 12471), (65405, 12473),
  (65406, 12475), (65407, 12477), (65408, 12479), (65409, 12481), (65410, 12484), (65411, 12486),
  (65412, 12488), (65419, 12498), (65420, 12501), (65421, 12504), (65422, 12507), (65428, 12516),
  (65429, 12518), (65436, 12527), (65437, 12531), (65443, 4522), (65444, 4354), (65456, 4378),
  (65460, 4385), (65506, 172), (65508, 166), (65509, 165), (65510, 8361), (65512, 9474),
  (65517, 9632), (65518, 9675)]

/-- Replacements of one character by several. -/
def expansions : List (Nat × List Nat) := [
  (168, [32, 776]), (175, [32, 772]), (180, [32, 769]), (184, [32, 807]), (188, [49, 8260, 52]),
  (189, [49, 8260, 50]), (190, [51, 8260, 52]), (304, [105, 775]), (306, [105, 106]),
  (307, [105, 106]), (319, [108, 183]), (320, [108, 183]), (329, [700, 110]), (452, [100, 382]),
  (453, [100, 382]), (454, [100, 382]), (455, [108, 106]), (456, [108, 106]), (457, [108, 106]),
  (458, [110, 106]), (459, [110, 106]), (460, [110, 106]), (497, [100, 122]), (498, [100, 122]),
  (499, [100, 122]), (728, [32, 774]), (729, [32, 775]), (730, [32, 778]), (731, [32, 808]),
  (732, [32, 771]), (733, [32, 779]), (836, [776, 769]), (890, [32, 953]), (900, [32, 769]),
  (901, [32, 776, 769]), (1415, [1381, 1410]), (1653, [1575, 1652]), (1654, [1608, 1652]),
  (1655, [1735, 1652]), (1656, [1610, 1652]), (2392, [2325, 2364]), (2393, [2326, 2364]),
  (2394, [2327, 2364]), (2395, [2332, 2364]), (2396, [2337, 2364]), (2397, [2338, 2364]),
  (2398, [2347, 2364]), (2399, [2351, 2364]), (2524, [2465, 2492]), (2525, [2466, 2492]),
  (2527, [2479, 2492]), (2611, [2610, 2620]), (2614, [2616, 2620]), (2649, [2582, 2620]),
  (2650, [2583, 2620]), (2651, [2588, 2620]), (2654, [2603, 2620]), (2908, [2849, 2876]),
  (2909, [2850, 2876]), (3635, [3661, 3634]), (3763, [3789, 3762]), (3804, [3755, 3737]),
  (3805, [3755, 3745]), (3907, [3906, 4023]), (3917, [3916, 4023]), (3922, [3921, 4023]),
  (3927, [3926, 4023]), (3932, [3931, 4023]), (3945, [3904, 4021]), (3955, [3953, 3954]),
  (3957, [3953, 3956]), (3958, [4018, 3968]), (3959, [4018, 3953, 3968]), (3960, [4019, 3968]),
  (3961, [4019, 3953, 3968]), (3969, [3953, 3968]), (3987, [3986, 4023]), (3997, [3996, 4023]),
  (4002, [4001, 4023]), (4007, [4006, 4023]), (4012, [4011, 4023]), (4025, [3984, 4021]),
  (7834, [97, 702]), (8064, [7936, 953]), (8065, [7937, 953]), (8066, [7938, 953]),
  (8067, [7939, 953]), (8068, [7940, 953]), (8069, [7941, 953]), (8070, [7942, 953]),
  (8071, [7943, 953]), (8072, [7936, 953]), (8073, [7937, 953]), (8074, [7938, 953]),
  (8075, [7939, 953]), (8076, [7940, 953]), (8077, [7941, 953]), (8078, [7942, 953]),
  (8079, [7943, 953]), (8080, [7968, 953]), (8081, [7969, 953]), (8082, [7970, 953]),
  (8083, [7971, 953]), (8084, [7972, 953]), (8085, [7973, 953]), (8086, [7974, 953]),
  (8087, [7975, 953]), (8088, [7968, 953]), (8089, [7969, 953]), (8090, [7970, 953]),
  (8091, [7971, 953]), (8092, [7972, 953]), (8093, [7973, 953]), (8094, [7974, 953]),
  (8095, [7975, 953]), (8096, [8032, 953]), (8097, [8033, 953]), (8098, [8034, 953]),
  (8099, [8035, 953]), (8100, [8036, 953]), (8101, [8037, 953]), (8102, [8038, 953]),
  (8103, [8039, 953]), (8104, [8032, 953]), (8105, [8033, 953]), (8106, [8034, 953]),
  (8107, [8035, 953]), (8108, [8036, 953]), (8109, [8037, 953]), (8110, [8038, 953]),
  (8111, [8039, 953]), (8114, [8048, 953]), (8115, [945, 953]), (8116, [940, 953]),
  (8119, [8118, 953]), (8124, [945, 953]), (8125, [32, 787]), (8127, [32, 787]),
  (8128, [32, 834]), (8129, [32, 776, 834]), (8130, [8052, 953]), (8131, [951, 953]),
  (8132, [942, 953]), (8135, [8134, 953]), (8140, [951, 953]), (8141, [32, 787, 768]),
  (8142, [32, 787, 769]), (8143, [32, 787, 834]), (8157, [32, 788, 768]), (8158, [32, 788, 769]),
  (8159, [32, 788, 834]), (8173, [32, 776, 768]), (8174, [32, 776, 769]), (8178, [8060, 953]),
  (8179, [969, 953]), (8180, [974, 953]), (8183, [8182, 953]), (8188, [969, 953]),
  (8189, [32, 769]), (8190, [32, 788]), (8448, [97, 47, 99]), (8449, [97, 47, 115]),
  (8451, [176, 99]), (8453, [99, 47, 111]), (8454, [99, 47, 117]), (8457, [176, 102]),
  (8470, [110, 111]), (8480, [115, 109]), (8481, [116, 101, 108]), (8482, [116, 109]),
  (8507, [102, 97, 120]), (8528, [49, 8260, 55]), (8529, [49, 8260, 57]),
  (8530, [49, 8260, 49, 48]), (8531, [49, 8260, 51]), (8532, [50, 8260, 51]),
  (8533, [49, 8260, 53]), (8534, [50, 8260, 53]), (8535, [51, 8260, 53]), (8536, [52, 8260, 53]),
  (8537, [49, 8260, 54]), (8538, [53, 8260, 54]), (8539, [49, 8260, 56]), (8540, [51, 8260, 56]),
  (8541, [53, 8260, 56]), (8542, [55, 8260, 56]), (8543, [49, 8260]), (8545, [105, 105]),
  (8546, [105, 105, 105]), (8547, [105, 118]), (8549, [118, 105]), (8550, [118, 105, 105]),
  (8551, [118, 105, 105, 105]), (8552, [105, 120]), (8554, [120, 105]), (8555, [120, 105, 105]),
  (8561, [105, 105]), (8562, [105, 105, 105]), (8563, [105, 118]), (8565, [118, 105]),
  (8566, [118, 105, 105]), (8567, [118, 105, 105, 105]), (8568, [105, 120]), (8570, [120, 105]),
  (8571, [120, 105, 105]), (8585, [48, 8260, 51]), (64256, [102, 102]), (64257, [102, 105]),
  (64258, [102, 108]), (64259, [102, 102, 105]), (64260, [102, 102, 108]), (64261, [115, 116]),
  (64262, [115, 116]), (65507, [32, 772])]

/-- Characters that are dropped. -/
def dropped : Intervals := [
  (173, 173), (847, 847), (4447, 4448), (6068, 6069), (6155, 6159), (8203, 8203), (8288, 8292),
  (8298, 8303), (12644, 12644), (65024, 65039), (65279, 65279), (65440, 65440), (113824, 113827),
  (119155, 119162), (917760, 917999)]

/-- Characters that no host name may hold, ASCII apart. -/
def refused : Intervals := [
  (128, 159), (888, 889), (896, 899), (907, 907), (909, 909), (930, 930), (1328, 1328),
  (1367, 1368), (1419, 1420), (1424, 1424), (1480, 1487), (1515, 1518), (1525, 1541),
  (1564, 1564), (1757, 1757), (1806, 1807), (1867, 1868), (1970, 1983), (2043, 2044),
  (2094, 2095), (2111, 2111), (2140, 2141), (2143, 2143), (2155, 2159), (2192, 2198),
  (2274, 2274), (2436, 2436), (2445, 2446), (2449, 2450), (2473, 2473), (2481, 2481),
  (2483, 2485), (2490, 2491), (2501, 2502), (2505, 2506), (2511, 2518), (2520, 2523),
  (2526, 2526), (2532, 2533), (2559, 2560), (2564, 2564), (2571, 2574), (2577, 2578),
  (2601, 2601), (2609, 2609), (2612, 2612), (2615, 2615), (2618, 2619), (2621, 2621),
  (2627, 2630), (2633, 2634), (2638, 2640), (2642, 2648), (2653, 2653), (2655, 2661),
  (2679, 2688), (2692, 2692), (2702, 2702), (2706, 2706), (2729, 2729), (2737, 2737),
  (2740, 2740), (2746, 2747), (2758, 2758), (2762, 2762), (2766, 2767), (2769, 2783),
  (2788, 2789), (2802, 2808), (2816, 2816), (2820, 2820), (2829, 2830), (2833, 2834),
  (2857, 2857), (2865, 2865), (2868, 2868), (2874, 2875), (2885, 2886), (2889, 2890),
  (2894, 2900), (2904, 2907), (2910, 2910), (2916, 2917), (2936, 2945), (2948, 2948),
  (2955, 2957), (2961, 2961), (2966, 2968), (2971, 2971), (2973, 2973), (2976, 2978),
  (2981, 2983), (2987, 2989), (3002, 3005), (3011, 3013), (3017, 3017), (3022, 3023),
  (3025, 3030), (3032, 3045), (3067, 3071), (3085, 3085), (3089, 3089), (3113, 3113),
  (3130, 3131), (3141, 3141), (3145, 3145), (3150, 3156), (3159, 3159), (3163, 3163),
  (3166, 3167), (3172, 3173), (3184, 3190), (3213, 3213), (3217, 3217), (3241, 3241),
  (3252, 3252), (3258, 3259), (3269, 3269), (3273, 3273), (3278, 3284), (3287, 3291),
  (3295, 3295), (3300, 3301), (3312, 3312), (3316, 3327), (3341, 3341), (3345, 3345),
  (3397, 3397), (3401, 3401), (3408, 3411), (3428, 3429), (3456, 3456), (3460, 3460),
  (3479, 3481), (3506, 3506), (3516, 3516), (3518, 3519), (3527, 3529), (3531, 3534),
  (3541, 3541), (3543, 3543), (3552, 3557), (3568, 3569), (3573, 3584), (3643, 3646),
  (3676, 3712), (3715, 3715), (3717, 3717), (3723, 3723), (3748, 3748), (3750, 3750),
  (3774, 3775), (3781, 3781), (3783, 3783), (3791, 3791), (3802, 3803), (3808, 3839),
  (3912, 3912), (3949, 3952), (3992, 3992), (4029, 4029), (4045, 4045), (4059, 4095),
  (4294, 4294), (4296, 4300), (4302, 4303), (4681, 4681), (4686, 4687), (4695, 4695),
  (4697, 4697), (4702, 4703), (4745, 4745), (4750, 4751), (4785, 4785), (4790, 4791),
  (4799, 4799), (4801, 4801), (4806, 4807), (4823, 4823), (4881, 4881), (4886, 4887),
  (4955, 4956), (4989, 4991), (5018, 5023), (5110, 5111), (5118, 5119), (5760, 5760),
  (5789, 5791), (5881, 5887), (5910, 5918), (5943, 5951), (5972, 5983), (5997, 5997),
  (6001, 6001), (6004, 6015), (6110, 6111), (6122, 6127), (6138, 6143), (6170, 6175),
  (6265, 6271), (6315, 6319), (6390, 6399), (6431, 6431), (6444, 6447), (6460, 6463),
  (6465, 6467), (6510, 6511), (6517, 6527), (6572, 6575), (6602, 6607), (6619, 6621),
  (6684, 6685), (6751, 6751), (6781, 6782), (6794, 6799), (6810, 6815), (6830, 6831),
  (6878, 6879), (6892, 6911), (6989, 6989), (7156, 7163), (7224, 7226), (7242, 7244),
  (7307, 7311), (7355, 7356), (7368, 7375), (7419, 7423), (7958, 7959), (7966, 7967),
  (8006, 8007), (8014, 8015), (8024, 8024), (8026, 8026), (8028, 8028), (8030, 8030),
  (8062, 8063), (8117, 8117), (8133, 8133), (8148, 8149), (8156, 8156), (8176, 8177),
  (8181, 8181), (8191, 8191), (8206, 8207), (8228, 8230), (8232, 8238), (8293, 8297),
  (8306, 8307), (8335, 8335), (8349, 8351), (8386, 8399), (8433, 8447), (8588, 8591),
  (9258, 9279), (9291, 9311), (9352, 9371), (11124, 11125), (11508, 11512), (11558, 11558),
  (11560, 11564), (11566, 11567), (11624, 11630), (11633, 11646), (11671, 11679), (11687, 11687),
  (11695, 11695), (11703, 11703), (11711, 11711), (11719, 11719), (11727, 11727), (11735, 11735),
  (11743, 11743), (11870, 11903), (11930, 11930), (12020, 12031), (12246, 12287), (12352, 12352),
  (12439, 12440), (12544, 12548), (12592, 12592), (12687, 12687), (12774, 12783), (12831, 12831),
  (13250, 13250), (13255, 13255), (13272, 13272), (42125, 42127), (42183, 42191), (42540, 42559),
  (42744, 42751), (42973, 42992), (43053, 43055), (43066, 43071), (43128, 43135), (43206, 43213),
  (43226, 43231), (43348, 43358), (43389, 43391), (43470, 43470), (43482, 43485), (43519, 43519),
  (43575, 43583), (43598, 43599), (43610, 43611), (43715, 43738), (43767, 43776), (43783, 43784),
  (43791, 43792), (43799, 43807), (43815, 43815), (43823, 43823), (43884, 43887), (44014, 44015),
  (44026, 44031), (55204, 55215), (55239, 55242), (55292, 63743), (64110, 64111), (64218, 64255),
  (64263, 64274), (64280, 64284), (64311, 64311), (64317, 64317), (64319, 64319), (64322, 64322),
  (64325, 64325), (64976, 65007), (65042, 65042), (65049, 65055), (65072, 65072), (65106, 65107),
  (65127, 65127), (65132, 65135), (65141, 65141), (65277, 65278), (65280, 65280), (65471, 65473),
  (65480, 65481), (65488, 65489), (65496, 65497), (65501, 65503), (65511, 65511), (65519, 65535),
  (65548, 65548), (65575, 65575), (65595, 65595), (65598, 65598), (65614, 65615), (65630, 65663),
  (65787, 65791), (65795, 65798), (65844, 65846), (65935, 65935), (65949, 65951), (65953, 65999),
  (66046, 66175), (66205, 66207), (66257, 66271), (66300, 66303), (66340, 66348), (66379, 66383),
  (66427, 66431), (66462, 66462), (66500, 66503), (66518, 66559), (66718, 66719), (66730, 66735),
  (66772, 66775), (66812, 66815), (66856, 66863), (66916, 66926), (66939, 66939), (66955, 66955),
  (66963, 66963), (66966, 66966), (66978, 66978), (66994, 66994), (67002, 67002), (67005, 67007),
  (67060, 67071), (67383, 67391), (67414, 67423), (67432, 67455), (67462, 67462), (67505, 67505),
  (67515, 67583), (67590, 67591), (67593, 67593), (67638, 67638), (67641, 67643), (67645, 67646),
  (67670, 67670), (67743, 67750), (67760, 67807), (67827, 67827), (67830, 67834), (67868, 67870),
  (67898, 67902), (67930, 67967), (68024, 68027), (68048, 68049), (68100, 68100), (68103, 68107),
  (68116, 68116), (68120, 68120), (68150, 68151), (68155, 68158), (68169, 68175), (68185, 68191),
  (68256, 68287), (68327, 68330), (68343, 68351), (68406, 68408), (68438, 68439), (68467, 68471),
  (68498, 68504), (68509, 68520), (68528, 68607), (68681, 68735), (68787, 68799), (68851, 68857),
  (68904, 68911), (68922, 68927), (68966, 68968), (68998, 69005), (69008, 69215), (69247, 69247),
  (69290, 69290), (69294, 69295), (69298, 69313), (69320, 69327), (69337, 69369), (69416, 69423),
  (69466, 69487), (69514, 69551), (69580, 69599), (69623, 69631), (69710, 69713), (69750, 69758),
  (69821, 69821), (69827, 69839), (69865, 69871), (69882, 69887), (69941, 69941), (69960, 69967),
  (70007, 70015), (70112, 70112), (70133, 70143), (70162, 70162), (70210, 70271), (70279, 70279),
  (70281, 70281), (70286, 70286), (70302, 70302), (70314, 70319), (70379, 70383), (70394, 70399),
  (70404, 70404), (70413, 70414), (70417, 70418), (70441, 70441), (70449, 70449), (70452, 70452),
  (70458, 70458), (70469, 70470), (70473, 70474), (70478, 70479), (70481, 70486), (70488, 70492),
  (70500, 70501), (70509, 70511), (70517, 70527), (70538, 70538), (70540, 70541), (70543, 70543),
  (70582, 70582), (70593, 70593), (70595, 70596), (70598, 70598), (70603, 70603), (70614, 70614),
  (70617, 70624), (70627, 70655), (70748, 70748), (70754, 70783), (70856, 70863), (70874, 71039),
  (71094, 71095), (71134, 71167), (71237, 71247), (71258, 71263), (71277, 71295), (71354, 71359),
  (71370, 71375), (71396, 71423), (71451, 71452), (71468, 71471), (71495, 71679), (71740, 71839),
  (71923, 71934), (71943, 71944), (71946, 71947), (71956, 71956), (71959, 71959), (71990, 71990),
  (71993, 71994), (72007, 72015), (72026, 72095), (72104, 72105), (72152, 72153), (72165, 72191),
  (72264, 72271), (72355, 72367), (72441, 72447), (72458, 72543), (72552, 72639), (72674, 72687),
  (72698, 72703), (72713, 72713), (72759, 72759), (72774, 72783), (72813, 72815), (72848, 72849),
  (72872, 72872), (72887, 72959), (72967, 72967), (72970, 72970), (73015, 73017), (73019, 73019),
  (73022, 73022), (73032, 73039), (73050, 73055), (73062, 73062), (73065, 73065), (73103, 73103),
  (73106, 73106), (73113, 73119), (73130, 73135), (73180, 73183), (73194, 73439), (73465, 73471),
  (73489, 73489), (73531, 73533), (73563, 73647), (73649, 73663), (73714, 73726), (74650, 74751),
  (74863, 74863), (74869, 74879), (75076, 77711), (77811, 77823), (78896, 78911), (78934, 78943),
  (82939, 82943), (83527, 90367), (90426, 92159), (92729, 92735), (92767, 92767), (92778, 92781),
  (92863, 92863), (92874, 92879), (92910, 92911), (92918, 92927), (92998, 93007), (93018, 93018),
  (93026, 93026), (93048, 93052), (93072, 93503), (93562, 93759), (93851, 93855), (93881, 93882),
  (93908, 93951), (94027, 94030), (94088, 94094), (94112, 94175), (94181, 94191), (94199, 94207),
  (101590, 101630), (101663, 101759), (101875, 110575), (110580, 110580), (110588, 110588),
  (110591, 110591), (110883, 110897), (110899, 110927), (110931, 110932), (110934, 110947),
  (110952, 110959), (111356, 113663), (113771, 113775), (113789, 113791), (113801, 113807),
  (113818, 113819), (113828, 117759), (118013, 118015), (118452, 118457), (118481, 118495),
  (118513, 118527), (118574, 118575), (118599, 118607), (118724, 118783), (119030, 119039),
  (119079, 119080), (119275, 119295), (119366, 119487), (119508, 119519), (119540, 119551),
  (119639, 119647), (119673, 119807), (119893, 119893), (119965, 119965), (119968, 119969),
  (119971, 119972), (119975, 119976), (119981, 119981), (119994, 119994), (119996, 119996),
  (120004, 120004), (120070, 120070), (120075, 120076), (120085, 120085), (120093, 120093),
  (120122, 120122), (120127, 120127), (120133, 120133), (120135, 120137), (120145, 120145),
  (120486, 120487), (120780, 120781), (121484, 121498), (121504, 121504), (121520, 122623),
  (122655, 122660), (122667, 122879), (122887, 122887), (122905, 122906), (122914, 122914),
  (122917, 122917), (122923, 122927), (122990, 123022), (123024, 123135), (123181, 123183),
  (123198, 123199), (123210, 123213), (123216, 123535), (123567, 123583), (123642, 123646),
  (123648, 124111), (124154, 124367), (124411, 124414), (124416, 124607), (124639, 124639),
  (124662, 124669), (124672, 124895), (124903, 124903), (124908, 124908), (124911, 124911),
  (124927, 124927), (125125, 125126), (125143, 125183), (125260, 125263), (125274, 125277),
  (125280, 126064), (126133, 126208), (126270, 126463), (126468, 126468), (126496, 126496),
  (126499, 126499), (126501, 126502), (126504, 126504), (126515, 126515), (126520, 126520),
  (126522, 126522), (126524, 126529), (126531, 126534), (126536, 126536), (126538, 126538),
  (126540, 126540), (126544, 126544), (126547, 126547), (126549, 126550), (126552, 126552),
  (126554, 126554), (126556, 126556), (126558, 126558), (126560, 126560), (126563, 126563),
  (126565, 126566), (126571, 126571), (126579, 126579), (126584, 126584), (126589, 126589),
  (126591, 126591), (126602, 126602), (126620, 126624), (126628, 126628), (126634, 126634),
  (126652, 126703), (126706, 126975), (127020, 127023), (127124, 127135), (127151, 127152),
  (127168, 127168), (127184, 127184), (127222, 127232), (127406, 127461), (127491, 127503),
  (127548, 127551), (127561, 127567), (127570, 127583), (127590, 127743), (128729, 128731),
  (128749, 128751), (128765, 128767), (128986, 128991), (129004, 129007), (129009, 129023),
  (129036, 129039), (129096, 129103), (129114, 129119), (129160, 129167), (129198, 129199),
  (129212, 129215), (129218, 129231), (129241, 129279), (129624, 129631), (129646, 129647),
  (129661, 129663), (129675, 129677), (129735, 129735), (129737, 129740), (129757, 129758),
  (129771, 129774), (129785, 129791), (129939, 129939), (130043, 131071), (173792, 173823),
  (178206, 178207), (183982, 183983), (191457, 191471), (192094, 194559), (195102, 196607),
  (201547, 201551), (210042, 917759), (918000, 1114111)]

end Playback.Url.Domain
