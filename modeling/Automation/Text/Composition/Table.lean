import Automation.Text.CharClass

/-!
# Composite characters

The characters that stand for a character with a mark on it, the characters that only ever stand
for others, and the classes by which marks are put in order. Characters are given by their code
points. The tables are those of Unicode 14; syllables of Hangul are composed by rule and not
listed.

## Main definitions

* `Text.compositesByMark` — for each mark, the characters that take it and what they become.
* `Text.isReplaced` — the characters that only ever stand for others.
* `Text.combiningClass` — the class of a mark.
-/

namespace Automation.Text

/-- For each mark, the characters that take it and what they become with it. -/
def compositesByMark : List (Nat × List (Nat × Nat)) := [
  (768, [
    (65, 192), (69, 200), (73, 204), (78, 504), (79, 210), (85, 217), (87, 7808), (89, 7922),
    (97, 224), (101, 232), (105, 236), (110, 505), (111, 242), (117, 249), (119, 7809),
    (121, 7923), (168, 8173), (194, 7846), (202, 7872), (212, 7890), (220, 475), (226, 7847),
    (234, 7873), (244, 7891), (252, 476), (258, 7856), (259, 7857), (274, 7700), (275, 7701),
    (332, 7760), (333, 7761), (416, 7900), (417, 7901), (431, 7914), (432, 7915), (913, 8122),
    (917, 8136), (919, 8138), (921, 8154), (927, 8184), (933, 8170), (937, 8186), (945, 8048),
    (949, 8050), (951, 8052), (953, 8054), (959, 8056), (965, 8058), (969, 8060), (970, 8146),
    (971, 8162), (1045, 1024), (1048, 1037), (1077, 1104), (1080, 1117), (7936, 7938),
    (7937, 7939), (7944, 7946), (7945, 7947), (7952, 7954), (7953, 7955), (7960, 7962),
    (7961, 7963), (7968, 7970), (7969, 7971), (7976, 7978), (7977, 7979), (7984, 7986),
    (7985, 7987), (7992, 7994), (7993, 7995), (8000, 8002), (8001, 8003), (8008, 8010),
    (8009, 8011), (8016, 8018), (8017, 8019), (8025, 8027), (8032, 8034), (8033, 8035),
    (8040, 8042), (8041, 8043), (8127, 8141), (8190, 8157)]),
  (769, [
    (65, 193), (67, 262), (69, 201), (71, 500), (73, 205), (75, 7728), (76, 313), (77, 7742),
    (78, 323), (79, 211), (80, 7764), (82, 340), (83, 346), (85, 218), (87, 7810), (89, 221),
    (90, 377), (97, 225), (99, 263), (101, 233), (103, 501), (105, 237), (107, 7729), (108, 314),
    (109, 7743), (110, 324), (111, 243), (112, 7765), (114, 341), (115, 347), (117, 250),
    (119, 7811), (121, 253), (122, 378), (168, 901), (194, 7844), (197, 506), (198, 508),
    (199, 7688), (202, 7870), (207, 7726), (212, 7888), (213, 7756), (216, 510), (220, 471),
    (226, 7845), (229, 507), (230, 509), (231, 7689), (234, 7871), (239, 7727), (244, 7889),
    (245, 7757), (248, 511), (252, 472), (258, 7854), (259, 7855), (274, 7702), (275, 7703),
    (332, 7762), (333, 7763), (360, 7800), (361, 7801), (416, 7898), (417, 7899), (431, 7912),
    (432, 7913), (913, 902), (917, 904), (919, 905), (921, 906), (927, 908), (933, 910),
    (937, 911), (945, 940), (949, 941), (951, 942), (953, 943), (959, 972), (965, 973),
    (969, 974), (970, 912), (971, 944), (978, 979), (1043, 1027), (1050, 1036), (1075, 1107),
    (1082, 1116), (7936, 7940), (7937, 7941), (7944, 7948), (7945, 7949), (7952, 7956),
    (7953, 7957), (7960, 7964), (7961, 7965), (7968, 7972), (7969, 7973), (7976, 7980),
    (7977, 7981), (7984, 7988), (7985, 7989), (7992, 7996), (7993, 7997), (8000, 8004),
    (8001, 8005), (8008, 8012), (8009, 8013), (8016, 8020), (8017, 8021), (8025, 8029),
    (8032, 8036), (8033, 8037), (8040, 8044), (8041, 8045), (8127, 8142), (8190, 8158)]),
  (770, [
    (65, 194), (67, 264), (69, 202), (71, 284), (72, 292), (73, 206), (74, 308), (79, 212),
    (83, 348), (85, 219), (87, 372), (89, 374), (90, 7824), (97, 226), (99, 265), (101, 234),
    (103, 285), (104, 293), (105, 238), (106, 309), (111, 244), (115, 349), (117, 251),
    (119, 373), (121, 375), (122, 7825), (7840, 7852), (7841, 7853), (7864, 7878), (7865, 7879),
    (7884, 7896), (7885, 7897)]),
  (771, [
    (65, 195), (69, 7868), (73, 296), (78, 209), (79, 213), (85, 360), (86, 7804), (89, 7928),
    (97, 227), (101, 7869), (105, 297), (110, 241), (111, 245), (117, 361), (118, 7805),
    (121, 7929), (194, 7850), (202, 7876), (212, 7894), (226, 7851), (234, 7877), (244, 7895),
    (258, 7860), (259, 7861), (416, 7904), (417, 7905), (431, 7918), (432, 7919)]),
  (772, [
    (65, 256), (69, 274), (71, 7712), (73, 298), (79, 332), (85, 362), (89, 562), (97, 257),
    (101, 275), (103, 7713), (105, 299), (111, 333), (117, 363), (121, 563), (196, 478),
    (198, 482), (213, 556), (214, 554), (220, 469), (228, 479), (230, 483), (245, 557),
    (246, 555), (252, 470), (490, 492), (491, 493), (550, 480), (551, 481), (558, 560),
    (559, 561), (913, 8121), (921, 8153), (933, 8169), (945, 8113), (953, 8145), (965, 8161),
    (1048, 1250), (1059, 1262), (1080, 1251), (1091, 1263), (7734, 7736), (7735, 7737),
    (7770, 7772), (7771, 7773)]),
  (774, [
    (65, 258), (69, 276), (71, 286), (73, 300), (79, 334), (85, 364), (97, 259), (101, 277),
    (103, 287), (105, 301), (111, 335), (117, 365), (552, 7708), (553, 7709), (913, 8120),
    (921, 8152), (933, 8168), (945, 8112), (953, 8144), (965, 8160), (1040, 1232), (1045, 1238),
    (1046, 1217), (1048, 1049), (1059, 1038), (1072, 1233), (1077, 1239), (1078, 1218),
    (1080, 1081), (1091, 1118), (7840, 7862), (7841, 7863)]),
  (775, [
    (65, 550), (66, 7682), (67, 266), (68, 7690), (69, 278), (70, 7710), (71, 288), (72, 7714),
    (73, 304), (77, 7744), (78, 7748), (79, 558), (80, 7766), (82, 7768), (83, 7776), (84, 7786),
    (87, 7814), (88, 7818), (89, 7822), (90, 379), (97, 551), (98, 7683), (99, 267), (100, 7691),
    (101, 279), (102, 7711), (103, 289), (104, 7715), (109, 7745), (110, 7749), (111, 559),
    (112, 7767), (114, 7769), (115, 7777), (116, 7787), (119, 7815), (120, 7819), (121, 7823),
    (122, 380), (346, 7780), (347, 7781), (352, 7782), (353, 7783), (383, 7835), (7778, 7784),
    (7779, 7785)]),
  (776, [
    (65, 196), (69, 203), (72, 7718), (73, 207), (79, 214), (85, 220), (87, 7812), (88, 7820),
    (89, 376), (97, 228), (101, 235), (104, 7719), (105, 239), (111, 246), (116, 7831),
    (117, 252), (119, 7813), (120, 7821), (121, 255), (213, 7758), (245, 7759), (362, 7802),
    (363, 7803), (921, 938), (933, 939), (953, 970), (965, 971), (978, 980), (1030, 1031),
    (1040, 1234), (1045, 1025), (1046, 1244), (1047, 1246), (1048, 1252), (1054, 1254),
    (1059, 1264), (1063, 1268), (1067, 1272), (1069, 1260), (1072, 1235), (1077, 1105),
    (1078, 1245), (1079, 1247), (1080, 1253), (1086, 1255), (1091, 1265), (1095, 1269),
    (1099, 1273), (1101, 1261), (1110, 1111), (1240, 1242), (1241, 1243), (1256, 1258),
    (1257, 1259)]),
  (777, [
    (65, 7842), (69, 7866), (73, 7880), (79, 7886), (85, 7910), (89, 7926), (97, 7843),
    (101, 7867), (105, 7881), (111, 7887), (117, 7911), (121, 7927), (194, 7848), (202, 7874),
    (212, 7892), (226, 7849), (234, 7875), (244, 7893), (258, 7858), (259, 7859), (416, 7902),
    (417, 7903), (431, 7916), (432, 7917)]),
  (778, [
    (65, 197), (85, 366), (97, 229), (117, 367), (119, 7832), (121, 7833)]),
  (779, [
    (79, 336), (85, 368), (111, 337), (117, 369), (1059, 1266), (1091, 1267)]),
  (780, [
    (65, 461), (67, 268), (68, 270), (69, 282), (71, 486), (72, 542), (73, 463), (75, 488),
    (76, 317), (78, 327), (79, 465), (82, 344), (83, 352), (84, 356), (85, 467), (90, 381),
    (97, 462), (99, 269), (100, 271), (101, 283), (103, 487), (104, 543), (105, 464), (106, 496),
    (107, 489), (108, 318), (110, 328), (111, 466), (114, 345), (115, 353), (116, 357),
    (117, 468), (122, 382), (220, 473), (252, 474), (439, 494), (658, 495)]),
  (783, [
    (65, 512), (69, 516), (73, 520), (79, 524), (82, 528), (85, 532), (97, 513), (101, 517),
    (105, 521), (111, 525), (114, 529), (117, 533), (1140, 1142), (1141, 1143)]),
  (785, [
    (65, 514), (69, 518), (73, 522), (79, 526), (82, 530), (85, 534), (97, 515), (101, 519),
    (105, 523), (111, 527), (114, 531), (117, 535)]),
  (787, [
    (913, 7944), (917, 7960), (919, 7976), (921, 7992), (927, 8008), (937, 8040), (945, 7936),
    (949, 7952), (951, 7968), (953, 7984), (959, 8000), (961, 8164), (965, 8016), (969, 8032)]),
  (788, [
    (913, 7945), (917, 7961), (919, 7977), (921, 7993), (927, 8009), (929, 8172), (933, 8025),
    (937, 8041), (945, 7937), (949, 7953), (951, 7969), (953, 7985), (959, 8001), (961, 8165),
    (965, 8017), (969, 8033)]),
  (795, [
    (79, 416), (85, 431), (111, 417), (117, 432)]),
  (803, [
    (65, 7840), (66, 7684), (68, 7692), (69, 7864), (72, 7716), (73, 7882), (75, 7730),
    (76, 7734), (77, 7746), (78, 7750), (79, 7884), (82, 7770), (83, 7778), (84, 7788),
    (85, 7908), (86, 7806), (87, 7816), (89, 7924), (90, 7826), (97, 7841), (98, 7685),
    (100, 7693), (101, 7865), (104, 7717), (105, 7883), (107, 7731), (108, 7735), (109, 7747),
    (110, 7751), (111, 7885), (114, 7771), (115, 7779), (116, 7789), (117, 7909), (118, 7807),
    (119, 7817), (121, 7925), (122, 7827), (416, 7906), (417, 7907), (431, 7920), (432, 7921)]),
  (804, [
    (85, 7794), (117, 7795)]),
  (805, [
    (65, 7680), (97, 7681)]),
  (806, [
    (83, 536), (84, 538), (115, 537), (116, 539)]),
  (807, [
    (67, 199), (68, 7696), (69, 552), (71, 290), (72, 7720), (75, 310), (76, 315), (78, 325),
    (82, 342), (83, 350), (84, 354), (99, 231), (100, 7697), (101, 553), (103, 291), (104, 7721),
    (107, 311), (108, 316), (110, 326), (114, 343), (115, 351), (116, 355)]),
  (808, [
    (65, 260), (69, 280), (73, 302), (79, 490), (85, 370), (97, 261), (101, 281), (105, 303),
    (111, 491), (117, 371)]),
  (813, [
    (68, 7698), (69, 7704), (76, 7740), (78, 7754), (84, 7792), (85, 7798), (100, 7699),
    (101, 7705), (108, 7741), (110, 7755), (116, 7793), (117, 7799)]),
  (814, [
    (72, 7722), (104, 7723)]),
  (816, [
    (69, 7706), (73, 7724), (85, 7796), (101, 7707), (105, 7725), (117, 7797)]),
  (817, [
    (66, 7686), (68, 7694), (75, 7732), (76, 7738), (78, 7752), (82, 7774), (84, 7790),
    (90, 7828), (98, 7687), (100, 7695), (104, 7830), (107, 7733), (108, 7739), (110, 7753),
    (114, 7775), (116, 7791), (122, 7829)]),
  (824, [
    (60, 8814), (61, 8800), (62, 8815), (8592, 8602), (8594, 8603), (8596, 8622), (8656, 8653),
    (8658, 8655), (8660, 8654), (8707, 8708), (8712, 8713), (8715, 8716), (8739, 8740),
    (8741, 8742), (8764, 8769), (8771, 8772), (8773, 8775), (8776, 8777), (8781, 8813),
    (8801, 8802), (8804, 8816), (8805, 8817), (8818, 8820), (8819, 8821), (8822, 8824),
    (8823, 8825), (8826, 8832), (8827, 8833), (8828, 8928), (8829, 8929), (8834, 8836),
    (8835, 8837), (8838, 8840), (8839, 8841), (8849, 8930), (8850, 8931), (8866, 8876),
    (8872, 8877), (8873, 8878), (8875, 8879), (8882, 8938), (8883, 8939), (8884, 8940),
    (8885, 8941)]),
  (834, [
    (168, 8129), (945, 8118), (951, 8134), (953, 8150), (965, 8166), (969, 8182), (970, 8151),
    (971, 8167), (7936, 7942), (7937, 7943), (7944, 7950), (7945, 7951), (7968, 7974),
    (7969, 7975), (7976, 7982), (7977, 7983), (7984, 7990), (7985, 7991), (7992, 7998),
    (7993, 7999), (8016, 8022), (8017, 8023), (8025, 8031), (8032, 8038), (8033, 8039),
    (8040, 8046), (8041, 8047), (8127, 8143), (8190, 8159)]),
  (837, [
    (913, 8124), (919, 8140), (937, 8188), (940, 8116), (942, 8132), (945, 8115), (951, 8131),
    (969, 8179), (974, 8180), (7936, 8064), (7937, 8065), (7938, 8066), (7939, 8067),
    (7940, 8068), (7941, 8069), (7942, 8070), (7943, 8071), (7944, 8072), (7945, 8073),
    (7946, 8074), (7947, 8075), (7948, 8076), (7949, 8077), (7950, 8078), (7951, 8079),
    (7968, 8080), (7969, 8081), (7970, 8082), (7971, 8083), (7972, 8084), (7973, 8085),
    (7974, 8086), (7975, 8087), (7976, 8088), (7977, 8089), (7978, 8090), (7979, 8091),
    (7980, 8092), (7981, 8093), (7982, 8094), (7983, 8095), (8032, 8096), (8033, 8097),
    (8034, 8098), (8035, 8099), (8036, 8100), (8037, 8101), (8038, 8102), (8039, 8103),
    (8040, 8104), (8041, 8105), (8042, 8106), (8043, 8107), (8044, 8108), (8045, 8109),
    (8046, 8110), (8047, 8111), (8048, 8114), (8052, 8130), (8060, 8178), (8118, 8119),
    (8134, 8135), (8182, 8183)]),
  (1619, [
    (1575, 1570)]),
  (1620, [
    (1575, 1571), (1608, 1572), (1610, 1574), (1729, 1730), (1746, 1747), (1749, 1728)]),
  (1621, [
    (1575, 1573)]),
  (2364, [
    (2344, 2345), (2352, 2353), (2355, 2356)]),
  (2494, [
    (2503, 2507)]),
  (2519, [
    (2503, 2508)]),
  (2878, [
    (2887, 2891)]),
  (2902, [
    (2887, 2888)]),
  (2903, [
    (2887, 2892)]),
  (3006, [
    (3014, 3018), (3015, 3019)]),
  (3031, [
    (2962, 2964), (3014, 3020)]),
  (3158, [
    (3142, 3144)]),
  (3266, [
    (3270, 3274)]),
  (3285, [
    (3263, 3264), (3270, 3271), (3274, 3275)]),
  (3286, [
    (3270, 3272)]),
  (3390, [
    (3398, 3402), (3399, 3403)]),
  (3415, [
    (3398, 3404)]),
  (3530, [
    (3545, 3546), (3548, 3549)]),
  (3535, [
    (3545, 3548)]),
  (3551, [
    (3545, 3550)]),
  (4142, [
    (4133, 4134)]),
  (6965, [
    (6917, 6918), (6919, 6920), (6921, 6922), (6923, 6924), (6925, 6926), (6929, 6930),
    (6970, 6971), (6972, 6973), (6974, 6976), (6975, 6977), (6978, 6979)]),
  (12441, [
    (12358, 12436), (12363, 12364), (12365, 12366), (12367, 12368), (12369, 12370),
    (12371, 12372), (12373, 12374), (12375, 12376), (12377, 12378), (12379, 12380),
    (12381, 12382), (12383, 12384), (12385, 12386), (12388, 12389), (12390, 12391),
    (12392, 12393), (12399, 12400), (12402, 12403), (12405, 12406), (12408, 12409),
    (12411, 12412), (12445, 12446), (12454, 12532), (12459, 12460), (12461, 12462),
    (12463, 12464), (12465, 12466), (12467, 12468), (12469, 12470), (12471, 12472),
    (12473, 12474), (12475, 12476), (12477, 12478), (12479, 12480), (12481, 12482),
    (12484, 12485), (12486, 12487), (12488, 12489), (12495, 12496), (12498, 12499),
    (12501, 12502), (12504, 12505), (12507, 12508), (12527, 12535), (12528, 12536),
    (12529, 12537), (12530, 12538), (12541, 12542)]),
  (12442, [
    (12399, 12401), (12402, 12404), (12405, 12407), (12408, 12410), (12411, 12413),
    (12495, 12497), (12498, 12500), (12501, 12503), (12504, 12506), (12507, 12509)]),
  (69818, [
    (69785, 69786), (69787, 69788), (69797, 69803)]),
  (69927, [
    (69937, 69934), (69938, 69935)]),
  (70462, [
    (70471, 70475)]),
  (70487, [
    (70471, 70476)]),
  (70832, [
    (70841, 70844)]),
  (70842, [
    (70841, 70843)]),
  (70845, [
    (70841, 70846)]),
  (71087, [
    (71096, 71098), (71097, 71099)]),
  (71984, [
    (71989, 71992)])]

/-- The code points at which the characters begin and end that only ever stand for others. -/
def replacedBoundaries : Array Nat := #[
  832, 834, 835, 837, 884, 885, 894, 895, 903, 904, 2392, 2400, 2524, 2526, 2527, 2528, 2611,
  2612, 2614, 2615, 2649, 2652, 2654, 2655, 2908, 2910, 3907, 3908, 3917, 3918, 3922, 3923, 3927,
  3928, 3932, 3933, 3945, 3946, 3955, 3956, 3957, 3959, 3960, 3961, 3969, 3970, 3987, 3988, 3997,
  3998, 4002, 4003, 4007, 4008, 4012, 4013, 4025, 4026, 8049, 8050, 8051, 8052, 8053, 8054, 8055,
  8056, 8057, 8058, 8059, 8060, 8061, 8062, 8123, 8124, 8126, 8127, 8137, 8138, 8139, 8140, 8147,
  8148, 8155, 8156, 8163, 8164, 8171, 8172, 8174, 8176, 8185, 8186, 8187, 8188, 8189, 8190, 8192,
  8194, 8486, 8487, 8490, 8492, 9001, 9003, 10972, 10973, 63744, 64014, 64016, 64017, 64018,
  64019, 64021, 64031, 64032, 64033, 64034, 64035, 64037, 64039, 64042, 64110, 64112, 64218,
  64285, 64286, 64287, 64288, 64298, 64311, 64312, 64317, 64318, 64319, 64320, 64322, 64323,
  64325, 64326, 64335, 119134, 119141, 119227, 119233, 194560, 195102]

/-- Whether a character only ever stands for others. -/
def isReplaced (n : Nat) : Bool := inClass replacedBoundaries n

/-- The classes of marks, each with the code points at which its members begin and end. -/
def markClasses : List (Nat × Array Nat) := [
  (1, #[
    820, 825, 7380, 7381, 7394, 7401, 8402, 8404, 8408, 8411, 8421, 8423, 8426, 8428, 68153,
    68154, 92912, 92917, 113822, 113823, 119143, 119146]),
  (6, #[
    94192, 94194]),
  (7, #[
    2364, 2365, 2492, 2493, 2620, 2621, 2748, 2749, 2876, 2877, 3132, 3133, 3260, 3261, 4151,
    4152, 6964, 6965, 7142, 7143, 7223, 7224, 43443, 43444, 69818, 69819, 70003, 70004, 70090,
    70091, 70198, 70199, 70377, 70378, 70459, 70461, 70726, 70727, 70851, 70852, 71104, 71105,
    71351, 71352, 71738, 71739, 72003, 72004, 73026, 73027, 125258, 125259]),
  (8, #[
    12441, 12443]),
  (9, #[
    2381, 2382, 2509, 2510, 2637, 2638, 2765, 2766, 2893, 2894, 3021, 3022, 3149, 3150, 3277,
    3278, 3387, 3389, 3405, 3406, 3530, 3531, 3642, 3643, 3770, 3771, 3972, 3973, 4153, 4155,
    5908, 5910, 5940, 5941, 6098, 6099, 6752, 6753, 6980, 6981, 7082, 7084, 7154, 7156, 11647,
    11648, 43014, 43015, 43052, 43053, 43204, 43205, 43347, 43348, 43456, 43457, 43766, 43767,
    44013, 44014, 68159, 68160, 69702, 69703, 69744, 69745, 69759, 69760, 69817, 69818, 69939,
    69941, 70080, 70081, 70197, 70198, 70378, 70379, 70477, 70478, 70722, 70723, 70850, 70851,
    71103, 71104, 71231, 71232, 71350, 71351, 71467, 71468, 71737, 71738, 71997, 71999, 72160,
    72161, 72244, 72245, 72263, 72264, 72345, 72346, 72767, 72768, 73028, 73030, 73111, 73112]),
  (10, #[
    1456, 1457]),
  (11, #[
    1457, 1458]),
  (12, #[
    1458, 1459]),
  (13, #[
    1459, 1460]),
  (14, #[
    1460, 1461]),
  (15, #[
    1461, 1462]),
  (16, #[
    1462, 1463]),
  (17, #[
    1463, 1464]),
  (18, #[
    1464, 1465, 1479, 1480]),
  (19, #[
    1465, 1467]),
  (20, #[
    1467, 1468]),
  (21, #[
    1468, 1469]),
  (22, #[
    1469, 1470]),
  (23, #[
    1471, 1472]),
  (24, #[
    1473, 1474]),
  (25, #[
    1474, 1475]),
  (26, #[
    64286, 64287]),
  (27, #[
    1611, 1612, 2288, 2289]),
  (28, #[
    1612, 1613, 2289, 2290]),
  (29, #[
    1613, 1614, 2290, 2291]),
  (30, #[
    1560, 1561, 1614, 1615]),
  (31, #[
    1561, 1562, 1615, 1616]),
  (32, #[
    1562, 1563, 1616, 1617]),
  (33, #[
    1617, 1618]),
  (34, #[
    1618, 1619]),
  (35, #[
    1648, 1649]),
  (36, #[
    1809, 1810]),
  (84, #[
    3157, 3158]),
  (91, #[
    3158, 3159]),
  (103, #[
    3640, 3642]),
  (107, #[
    3656, 3660]),
  (118, #[
    3768, 3770]),
  (122, #[
    3784, 3788]),
  (129, #[
    3953, 3954]),
  (130, #[
    3954, 3955, 3962, 3966, 3968, 3969]),
  (132, #[
    3956, 3957]),
  (202, #[
    801, 803, 807, 809, 7632, 7633]),
  (214, #[
    7630, 7631]),
  (216, #[
    795, 796, 3897, 3898, 119141, 119143, 119150, 119155]),
  (218, #[
    7674, 7675, 12330, 12331]),
  (220, #[
    790, 794, 796, 801, 803, 807, 809, 820, 825, 829, 839, 842, 845, 847, 851, 855, 857, 859,
    1425, 1426, 1430, 1431, 1435, 1436, 1442, 1448, 1450, 1451, 1477, 1478, 1621, 1623, 1628,
    1629, 1631, 1632, 1763, 1764, 1770, 1771, 1773, 1774, 1841, 1842, 1844, 1845, 1847, 1850,
    1851, 1853, 1854, 1855, 1858, 1859, 1860, 1861, 1862, 1863, 1864, 1865, 2034, 2035, 2045,
    2046, 2137, 2140, 2201, 2204, 2255, 2260, 2275, 2276, 2278, 2279, 2281, 2282, 2285, 2288,
    2294, 2295, 2297, 2299, 2386, 2387, 3864, 3866, 3893, 3894, 3895, 3896, 4038, 4039, 4237,
    4238, 6459, 6460, 6680, 6681, 6783, 6784, 6837, 6843, 6845, 6846, 6847, 6849, 6851, 6853,
    6858, 6859, 7020, 7021, 7381, 7386, 7388, 7392, 7405, 7406, 7618, 7619, 7626, 7627, 7631,
    7632, 7673, 7674, 7677, 7678, 7679, 7680, 8424, 8425, 8428, 8432, 43307, 43310, 43700, 43701,
    65063, 65070, 66045, 66046, 66272, 66273, 68109, 68110, 68154, 68155, 68326, 68327, 69446,
    69448, 69451, 69452, 69453, 69457, 69507, 69508, 69509, 69510, 119163, 119171, 119178, 119180,
    125136, 125143]),
  (222, #[
    1434, 1435, 1453, 1454, 6457, 6458, 12333, 12334]),
  (224, #[
    12334, 12336]),
  (226, #[
    119149, 119150]),
  (228, #[
    1454, 1455, 6313, 6314, 7671, 7673, 12331, 12332]),
  (230, #[
    768, 789, 829, 837, 838, 839, 842, 845, 848, 851, 855, 856, 859, 860, 867, 880, 1155, 1160,
    1426, 1430, 1431, 1434, 1436, 1442, 1448, 1450, 1451, 1453, 1455, 1456, 1476, 1477, 1552,
    1560, 1619, 1621, 1623, 1628, 1629, 1631, 1750, 1757, 1759, 1763, 1764, 1765, 1767, 1769,
    1771, 1773, 1840, 1841, 1842, 1844, 1845, 1847, 1850, 1851, 1853, 1854, 1855, 1858, 1859,
    1860, 1861, 1862, 1863, 1864, 1865, 1867, 2027, 2034, 2035, 2036, 2070, 2074, 2075, 2084,
    2085, 2088, 2089, 2094, 2200, 2201, 2204, 2208, 2250, 2255, 2260, 2274, 2276, 2278, 2279,
    2281, 2282, 2285, 2291, 2294, 2295, 2297, 2299, 2304, 2385, 2386, 2387, 2389, 2558, 2559,
    3970, 3972, 3974, 3976, 4957, 4960, 6109, 6110, 6458, 6459, 6679, 6680, 6773, 6781, 6832,
    6837, 6843, 6845, 6849, 6851, 6853, 6858, 6859, 6863, 7019, 7020, 7021, 7028, 7376, 7379,
    7386, 7388, 7392, 7393, 7412, 7413, 7416, 7418, 7616, 7618, 7619, 7626, 7627, 7629, 7633,
    7670, 7675, 7676, 7678, 7679, 8400, 8402, 8404, 8408, 8411, 8413, 8417, 8418, 8423, 8424,
    8425, 8426, 8432, 8433, 11503, 11506, 11744, 11776, 42607, 42608, 42612, 42622, 42654, 42656,
    42736, 42738, 43232, 43250, 43696, 43697, 43698, 43700, 43703, 43705, 43710, 43712, 43713,
    43714, 65056, 65063, 65070, 65072, 66422, 66427, 68111, 68112, 68152, 68153, 68325, 68326,
    68900, 68904, 69291, 69293, 69448, 69451, 69452, 69453, 69506, 69507, 69508, 69509, 69888,
    69891, 70502, 70509, 70512, 70517, 70750, 70751, 92976, 92983, 119173, 119178, 119210, 119214,
    119362, 119365, 122880, 122887, 122888, 122905, 122907, 122914, 122915, 122917, 122918,
    122923, 123184, 123191, 123566, 123567, 123628, 123632, 125252, 125258]),
  (232, #[
    789, 790, 794, 795, 856, 857, 7670, 7671, 12332, 12333]),
  (233, #[
    860, 861, 863, 864, 866, 867, 7676, 7677]),
  (234, #[
    861, 863, 864, 866, 7629, 7630]),
  (240, #[
    837, 838])]

/-- The class of a mark; any other character has the class zero. -/
def combiningClass (n : Nat) : Nat :=
  if n < 768 then 0
  else ((markClasses.find? fun entry => inClass entry.2 n).map Prod.fst).getD 0

end Automation.Text
