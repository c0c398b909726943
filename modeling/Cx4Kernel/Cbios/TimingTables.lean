import Cx4Kernel.Cbios.EdidTiming
import Cx4Kernel.Cbios.HdmiVsdb

/-! The tables of timings in `CBiosEDID.c` and what is computed from a VIC. -/

namespace Cx4Kernel.Cbios

-----------------------------------------------------------------------------------------
-- The tables
-----------------------------------------------------------------------------------------

/-- An entry of the tables of timings, with the blanking from the end of the picture to the total.
-/
def tableTiming (formatVIC xRes yRes refreshRate : Nat) (hvPolarity : U16)
    (pixelClock horTotal horSyncStart horSyncEnd verTotal verSyncStart verSyncEnd : Nat)
    : TimingAttrib where
  formatVIC := .ofNat 16 formatVIC
  xRes := .ofNat 16 xRes
  yRes := .ofNat 16 yRes
  refreshRate := .ofNat 16 refreshRate
  hvPolarity := hvPolarity
  pixelClock := .ofNat 32 pixelClock
  horTotal := .ofNat 16 horTotal
  horDisEnd := .ofNat 16 xRes
  horBStart := .ofNat 16 xRes
  horBEnd := .ofNat 16 horTotal
  horSyncStart := .ofNat 16 horSyncStart
  horSyncEnd := .ofNat 16 horSyncEnd
  verTotal := .ofNat 16 verTotal
  verDisEnd := .ofNat 16 yRes
  verBStart := .ofNat 16 yRes
  verBEnd := .ofNat 16 verTotal
  verSyncStart := .ofNat 16 verSyncStart
  verSyncEnd := .ofNat 16 verSyncEnd

/-- `AdapterTimingTbl`. -/
def adapterTimingTbl : List TimingAttrib :=
  [ tableTiming 0 640 350 8500 0x80 315000 832 672 736 445 382 385,
    tableTiming 0 640 400 8500 0x40 315000 832 672 736 445 401 404,
    tableTiming 0 720 400 8500 0x40 355000 936 756 828 446 401 404,
    { tableTiming 0 640 480 6000 0xC0 251750 800 656 752 525 490 492 with
      horBStart := 648, horBEnd := 792, verBStart := 489, verBEnd := 517 },
    { tableTiming 0 640 480 7200 0xC0 315000 832 664 704 520 489 492 with
      horBStart := 648, horBEnd := 824, verBStart := 488, verBEnd := 512 },
    tableTiming 0 640 480 7500 0xC0 315000 840 656 720 500 481 484,
    tableTiming 0 640 480 8500 0xC0 360000 832 696 752 509 481 484,
    tableTiming 0 800 600 5600 0x00 360000 1024 824 896 625 601 603,
    tableTiming 0 800 600 6000 0x00 400000 1056 840 968 628 601 605,
    tableTiming 0 800 600 7200 0x00 500000 1040 856 976 666 637 643,
    tableTiming 0 800 600 7500 0x00 495000 1056 816 896 625 601 604,
    tableTiming 0 800 600 8500 0x00 562500 1048 832 896 631 601 604,
    tableTiming 0 800 600 10000 0x40 672500 1056 848 928 639 603 607,
    tableTiming 0 848 480 6000 0x00 337500 1088 864 976 517 486 494,
    tableTiming 0 1024 768 6000 0xC0 650000 1344 1048 1184 806 771 777,
    tableTiming 0 1024 768 7000 0xC0 750000 1328 1048 1184 806 771 777,
    tableTiming 0 1024 768 7500 0x00 787500 1312 1040 1136 800 769 772,
    tableTiming 0 1024 768 8500 0x00 945000 1376 1072 1168 808 769 772,
    tableTiming 0 1024 768 10000 0x40 1122500 1376 1096 1192 816 771 775,
    tableTiming 0 1024 768 12000 0x40 1390000 1408 1104 1216 823 769 772,
    tableTiming 0 1152 864 7500 0x00 1080000 1600 1216 1344 900 865 868,
    tableTiming 0 1280 720 5000 0x00 742500 1980 1720 1760 750 725 730,
    tableTiming 0 1280 720 6000 0x00 742500 1650 1390 1430 750 725 730,
    tableTiming 0 1280 768 6000 0x40 795000 1664 1344 1472 798 771 778,
    tableTiming 0 1280 768 7500 0x40 1022500 1696 1360 1488 805 771 778,
    tableTiming 0 1280 768 8500 0x40 1175000 1712 1360 1496 809 771 778,
    tableTiming 0 1280 800 6000 0x40 835000 1680 1352 1480 831 803 809,
    tableTiming 0 1280 800 7500 0x40 1065000 1696 1360 1488 838 803 809,
    tableTiming 0 1280 800 8500 0x40 1225000 1712 1360 1496 843 803 809,
    tableTiming 0 1280 960 6000 0x00 1080000 1800 1376 1488 1000 961 964,
    tableTiming 0 1280 960 8500 0x00 1485000 1728 1344 1504 1011 961 964,
    tableTiming 0 1280 1024 6000 0x00 1080000 1688 1328 1440 1066 1025 1028,
    tableTiming 0 1280 1024 7500 0x00 1350000 1688 1296 1440 1066 1025 1028,
    tableTiming 0 1280 1024 8500 0x00 1575000 1728 1344 1504 1072 1025 1028,
    tableTiming 0 1360 768 6000 0x00 855000 1792 1424 1536 795 771 777,
    tableTiming 0 1366 768 6000 0x00 855000 1792 1436 1579 798 771 774,
    tableTiming 0 1400 1050 6000 0x40 1217500 1864 1488 1632 1089 1053 1057,
    tableTiming 0 1400 1050 7500 0x40 1560000 1896 1504 1648 1099 1053 1057,
    tableTiming 0 1400 1050 8500 0x40 1795000 1912 1504 1656 1105 1053 1057,
    tableTiming 0 1440 900 6000 0x40 1065000 1904 1520 1672 934 903 909,
    tableTiming 0 1440 900 7500 0x40 1367500 1936 1536 1688 942 903 909,
    tableTiming 0 1440 900 8500 0x40 1570000 1952 1544 1696 948 903 909,
    tableTiming 0 1600 900 6000 0x00 1080000 1800 1624 1704 1000 901 904,
    tableTiming 0 1600 1200 6000 0x00 1620000 2160 1664 1856 1250 1201 1204,
    tableTiming 0 1600 1200 6500 0x00 1755000 2160 1664 1856 1250 1201 1204,
    tableTiming 0 1600 1200 7000 0x00 1890000 2160 1664 1856 1250 1201 1204,
    tableTiming 0 1600 1200 7500 0x00 2025000 2160 1664 1856 1250 1201 1204,
    tableTiming 0 1600 1200 8500 0x00 2295000 2160 1664 1856 1250 1201 1204,
    tableTiming 0 1680 1050 6000 0x40 1462500 2240 1784 1960 1089 1053 1059,
    tableTiming 0 1680 1050 7500 0x40 1870000 2272 1800 1976 1099 1053 1059,
    tableTiming 0 1680 1050 8500 0x40 2147500 2288 1808 1984 1105 1053 1059,
    tableTiming 0 1792 1344 6000 0x40 2047500 2448 1920 2120 1394 1345 1348,
    tableTiming 0 1792 1344 7500 0x40 2610000 2456 1888 2104 1417 1345 1348,
    tableTiming 0 1856 1392 6000 0x40 2182500 2528 1952 2176 1439 1393 1396,
    tableTiming 0 1856 1392 7500 0x40 2880000 2560 1984 2208 1500 1393 1396,
    tableTiming 0 1920 1080 5000 0x00 1485000 2640 2448 2492 1125 1084 1089,
    tableTiming 0 1920 1080 6000 0x00 1485000 2200 2008 2052 1125 1084 1089,
    tableTiming 0 1920 1080 12000 0x40 3687000 2656 2072 2288 1157 1081 1084,
    tableTiming 0 1920 1200 6000 0x40 1932500 2592 2056 2256 1245 1203 1209,
    tableTiming 0 1920 1200 7500 0x40 2452500 2608 2056 2264 1255 1203 1209,
    tableTiming 0 1920 1200 8500 0x40 2812500 2624 2064 2272 1262 1203 1209,
    tableTiming 0 1920 1440 6000 0x40 2340000 2600 2048 2256 1500 1441 1444,
    tableTiming 0 1920 1440 7500 0x40 2970000 2640 2064 2288 1500 1441 1444,
    tableTiming 0 2048 1152 6000 0x00 1620000 2250 2074 2154 1200 1153 1156,
    tableTiming 0 2560 1600 6000 0x40 3485000 3504 2752 3032 1658 1603 1609,
    tableTiming 0 2560 1600 7500 0x40 4432500 3536 2768 3048 1672 1603 1609,
    tableTiming 0 2560 1600 8500 0x40 5052500 3536 2768 3048 1682 1603 1609 ]

/-- `HDMIFormatTimingTbl`. -/
def hdmiFormatTimingTbl : List TimingAttrib :=
  [ tableTiming 1 640 480 6000 0xC0 252000 800 656 752 525 490 492,
    tableTiming 2 720 480 6000 0xC0 270270 858 736 798 525 489 495,
    tableTiming 3 720 480 6000 0xC0 270270 858 736 798 525 489 495,
    tableTiming 4 1280 720 6000 0x00 742500 1650 1390 1430 750 725 730,
    tableTiming 5 1920 1080 6000 0x00 742500 2200 2008 2052 1125 1084 1094,
    tableTiming 6 720 480 6000 0xC0 270270 858 739 801 525 488 494,
    tableTiming 7 720 480 6000 0xC0 270270 858 739 801 525 488 494,
    { tableTiming 8 720 240 6000 0xC0 270270 858 739 801 262 244 247 with horBStart := 858 },
    { tableTiming 9 720 240 6000 0xC0 270270 858 739 801 262 244 247 with horBStart := 858 },
    tableTiming 10 2880 480 6000 0xC0 540540 3432 2956 3204 525 488 494,
    tableTiming 11 2880 480 6000 0xC0 540540 3432 2956 3204 525 488 494,
    tableTiming 12 2880 240 6000 0xC0 540540 3432 2956 3204 262 244 247,
    tableTiming 13 2880 240 6000 0xC0 540540 3432 2956 3204 263 245 248,
    tableTiming 14 1440 480 6000 0xC0 540540 1716 1472 1596 525 490 496,
    tableTiming 15 1440 480 6000 0xC0 540540 1716 1472 1596 525 490 496,
    tableTiming 16 1920 1080 6000 0x00 1485000 2200 2008 2052 1125 1084 1089,
    tableTiming 17 720 576 5000 0xC0 270000 864 732 796 625 581 586,
    tableTiming 18 720 576 5000 0xC0 270000 864 732 796 625 581 586,
    tableTiming 19 1280 720 5000 0x00 742500 1980 1720 1760 750 725 730,
    tableTiming 20 1920 1080 5000 0x00 742500 2640 2448 2492 1125 1084 1094,
    tableTiming 21 720 576 5000 0xC0 270000 864 732 795 625 580 586,
    tableTiming 22 720 576 5000 0xC0 270000 864 732 795 625 580 586,
    tableTiming 23 720 288 5000 0xC0 270000 864 732 795 312 290 293,
    tableTiming 24 720 288 5000 0xC0 270000 864 732 795 312 290 293,
    tableTiming 25 2880 576 5000 0xC0 540000 3456 2928 3180 625 580 586,
    tableTiming 26 2880 576 5000 0xC0 540000 3456 2928 3180 625 580 586,
    tableTiming 27 2880 288 5000 0xC0 540000 3456 2928 3180 312 290 293,
    tableTiming 28 2880 288 5000 0xC0 540000 3456 2928 3180 313 291 294,
    tableTiming 29 1440 576 5000 0xC0 540000 1728 1464 1592 625 581 586,
    tableTiming 30 1440 576 5000 0xC0 540000 1728 1464 1592 625 581 586,
    tableTiming 31 1920 1080 5000 0x00 1485000 2640 2448 2492 1125 1084 1089,
    tableTiming 32 1920 1080 2400 0x00 742500 2750 2558 2602 1125 1084 1089,
    tableTiming 33 1920 1080 2500 0x00 742500 2640 2448 2492 1125 1084 1089,
    tableTiming 34 1920 1080 3000 0x00 742500 2200 2008 2052 1125 1084 1089,
    tableTiming 35 2880 480 6000 0xC0 1081080 3432 2944 3192 525 489 495,
    tableTiming 36 2880 480 6000 0xC0 1081080 3432 2944 3192 525 489 495,
    tableTiming 37 2880 576 5000 0xC0 1080000 3456 2928 3184 625 581 586,
    tableTiming 38 2880 576 5000 0xC0 1080000 3456 2928 3184 625 581 586,
    tableTiming 39 1920 1080 5000 0x00 720000 2304 1952 2120 1250 1126 1136,
    tableTiming 40 1920 1080 10000 0x00 1485000 2640 2448 2492 1125 1084 1094,
    tableTiming 41 1280 720 10000 0x00 1485000 1980 1720 1760 750 725 730,
    tableTiming 42 720 576 10000 0xC0 540000 864 732 796 625 581 586,
    tableTiming 43 720 576 10000 0xC0 540000 864 732 796 625 581 586,
    tableTiming 44 720 576 10000 0xC0 540000 864 732 795 625 580 586,
    tableTiming 45 720 576 10000 0xC0 540000 864 732 795 625 580 586,
    tableTiming 46 1920 1080 10000 0x00 1485000 2200 2008 2052 1125 1084 1094,
    tableTiming 47 1280 720 12000 0x00 1485000 1650 1390 1430 750 725 730,
    tableTiming 48 720 480 12000 0xC0 540540 858 736 798 525 489 495,
    tableTiming 49 720 480 12000 0xC0 540540 858 736 798 525 489 495,
    tableTiming 50 720 480 12000 0xC0 540540 858 739 801 525 488 494,
    tableTiming 51 720 480 12000 0xC0 540540 858 739 801 525 488 494,
    tableTiming 52 720 576 20000 0xC0 1080000 864 732 796 625 581 586,
    tableTiming 53 720 576 20000 0xC0 1080000 864 732 796 625 581 586,
    tableTiming 54 720 576 20000 0xC0 1080000 864 732 795 625 580 586,
    tableTiming 55 720 576 20000 0xC0 1080000 864 732 795 625 580 586,
    tableTiming 56 720 480 24000 0xC0 1081080 858 736 798 525 489 495,
    tableTiming 57 720 480 24000 0xC0 1081080 858 736 798 525 489 495,
    tableTiming 58 720 480 24000 0xC0 1081080 858 739 801 525 488 494,
    tableTiming 59 720 480 24000 0xC0 1081080 858 739 801 525 488 494,
    tableTiming 60 1280 720 2400 0x00 594000 3300 3040 3080 750 725 730,
    tableTiming 61 1280 720 2500 0x00 742500 3960 3700 3740 750 725 730,
    tableTiming 62 1280 720 3000 0x00 742500 3300 3040 3080 750 725 730,
    tableTiming 63 1920 1080 12000 0x00 2970000 2200 2008 2052 1125 1084 1089,
    tableTiming 64 1920 1080 10000 0x00 2970000 2640 2448 2492 1125 1084 1089,
    tableTiming 65 1280 720 2400 0x00 594000 3300 3040 3080 750 725 730,
    tableTiming 66 1280 720 2500 0x00 742500 3960 3700 3740 750 725 730,
    tableTiming 67 1280 720 3000 0x00 742500 3300 3040 3080 750 725 730,
    tableTiming 68 1280 720 5000 0x00 742500 1980 1720 1760 750 725 730,
    tableTiming 69 1280 720 6000 0x00 742500 1650 1390 1430 750 725 730,
    tableTiming 70 1280 720 10000 0x00 1485000 1980 1720 1760 750 725 730,
    tableTiming 71 1280 720 12000 0x00 1485000 1650 1390 1430 750 725 730,
    tableTiming 72 1920 1080 2400 0x00 742500 2750 2558 2602 1125 1084 1089,
    tableTiming 73 1920 1080 2500 0x00 742500 2640 2448 2492 1125 1084 1089,
    tableTiming 74 1920 1080 3000 0x00 741760 2200 2008 2052 1125 1084 1089,
    tableTiming 75 1920 1080 5000 0x00 1485000 2640 2448 2492 1125 1084 1089,
    tableTiming 76 1920 1080 6000 0x00 1485000 2200 2008 2052 1125 1084 1089,
    tableTiming 77 1920 1080 12000 0x00 2970000 2640 2448 2492 1125 1084 1089,
    tableTiming 78 1920 1080 12000 0x00 2970000 2200 2008 2052 1125 1084 1089,
    tableTiming 79 1680 720 2400 0x00 594000 3300 3040 3080 750 725 730,
    tableTiming 80 1680 720 2500 0x00 594000 3168 2908 2948 750 725 730,
    tableTiming 81 1680 720 3000 0x00 594000 2640 2380 2420 750 725 730,
    tableTiming 82 1680 720 5000 0x00 825000 2200 1940 1980 750 725 730,
    tableTiming 83 1680 720 6000 0x00 990000 2200 1940 1980 750 725 730,
    tableTiming 84 1680 720 10000 0x00 1650000 2000 1740 1780 825 725 730,
    tableTiming 85 1680 720 12000 0x00 1980000 2000 1740 1780 825 725 730,
    tableTiming 86 2560 1080 2400 0x00 990000 3750 3558 3602 1100 1084 1089,
    tableTiming 87 2560 1080 2500 0x00 900000 3200 3008 3052 1125 1084 1089,
    tableTiming 88 2560 1080 3000 0x00 1188000 3520 3328 3372 1125 1084 1089,
    tableTiming 89 2560 1080 5000 0x00 1856250 3300 3108 3152 1125 1084 1089,
    tableTiming 90 2560 1080 6000 0x00 1980000 3000 2808 2852 1100 1084 1089,
    tableTiming 91 2560 1080 10000 0x00 3712500 2970 2778 2822 1250 1084 1089,
    tableTiming 92 2560 1080 12000 0x00 4950000 3300 3108 3152 1250 1084 1089,
    tableTiming 93 3840 2160 2400 0x00 2970000 5500 5116 5204 2250 2168 2178,
    tableTiming 94 3840 2160 2500 0x00 2970000 5280 4896 4984 2250 2168 2178,
    tableTiming 95 3840 2160 3000 0x00 2970000 4400 4016 4104 2250 2168 2178,
    tableTiming 96 3840 2160 5000 0x00 5940000 5280 4896 4984 2250 2168 2178,
    tableTiming 97 3840 2160 6000 0x00 5940000 4400 4016 4104 2250 2168 2178,
    tableTiming 98 4096 2160 2400 0x00 2970000 5500 5116 5204 2250 2168 2178,
    tableTiming 99 4096 2160 2500 0x00 2970000 5280 5064 5152 2250 2168 2178,
    tableTiming 100 4096 2160 3000 0x00 2970000 4400 4184 4272 2250 2168 2178,
    tableTiming 101 4096 2160 5000 0x00 5940000 5280 5064 5152 2250 2168 2178,
    tableTiming 102 4096 2160 6000 0x00 5940000 4400 4184 4272 2250 2168 2178,
    tableTiming 103 3840 2160 2400 0x00 2970000 5500 5116 5204 2250 2168 2178,
    tableTiming 104 3840 2160 2500 0x00 2970000 5280 4896 4984 2250 2168 2178,
    tableTiming 105 3840 2160 3000 0x00 2970000 4400 4016 4104 2250 2168 2178,
    tableTiming 106 3840 2160 5000 0x00 5940000 5280 4896 4984 2250 2168 2178,
    tableTiming 107 3840 2160 6000 0x00 5940000 4400 4016 4104 2250 2168 2178,
    tableTiming 108 3840 2160 3000 0x00 2970000 4400 4016 4104 2250 2168 2178,
    tableTiming 109 3840 2160 2500 0x00 2970000 5280 4896 4984 2250 2168 2178,
    tableTiming 110 3840 2160 2400 0x00 2970000 5500 5116 5204 2250 2168 2178,
    tableTiming 111 4096 2160 2400 0x00 2970000 5500 5116 5204 2250 2168 2178 ]

/-- `CBIOS_HDMI_FORMAT_MTX`. -/
structure HdmiFormatMtx where
  aspectRatio : U16
  interlace : Bool
  supported : Bool

/-- `CEAVideoFormatTable`, from VIC 1 on. -/
def ceaVideoFormatTable : List HdmiFormatMtx :=
  [ ⟨1, false, true⟩, ⟨1, false, true⟩, ⟨2, false, true⟩, ⟨2, false, true⟩, ⟨2, true, true⟩,
    ⟨1, true, false⟩, ⟨2, true, false⟩, ⟨1, false, false⟩, ⟨2, false, false⟩, ⟨1, true, false⟩,
    ⟨2, true, false⟩, ⟨1, false, false⟩, ⟨2, false, false⟩, ⟨1, false, false⟩, ⟨2, false, false⟩,
    ⟨2, false, true⟩, ⟨1, false, true⟩, ⟨2, false, true⟩, ⟨2, false, true⟩, ⟨2, true, true⟩,
    ⟨1, true, false⟩, ⟨2, true, false⟩, ⟨1, false, false⟩, ⟨2, false, false⟩, ⟨1, true, false⟩,
    ⟨2, true, false⟩, ⟨1, false, false⟩, ⟨2, false, false⟩, ⟨1, false, false⟩, ⟨2, false, false⟩,
    ⟨2, false, true⟩, ⟨2, false, true⟩, ⟨2, false, true⟩, ⟨2, false, true⟩, ⟨1, false, false⟩,
    ⟨2, false, false⟩, ⟨1, false, false⟩, ⟨2, false, false⟩, ⟨2, true, false⟩, ⟨2, true, false⟩,
    ⟨2, false, true⟩, ⟨1, false, true⟩, ⟨2, false, true⟩, ⟨1, true, false⟩, ⟨2, true, false⟩,
    ⟨2, true, false⟩, ⟨2, false, true⟩, ⟨1, false, true⟩, ⟨2, false, true⟩, ⟨1, true, false⟩,
    ⟨2, true, false⟩, ⟨1, false, true⟩, ⟨2, false, true⟩, ⟨1, true, false⟩, ⟨2, true, false⟩,
    ⟨1, false, true⟩, ⟨2, false, true⟩, ⟨1, true, false⟩, ⟨2, true, false⟩, ⟨2, false, true⟩,
    ⟨2, false, true⟩, ⟨2, false, true⟩, ⟨2, false, true⟩, ⟨2, false, true⟩, ⟨3, false, true⟩,
    ⟨3, false, true⟩, ⟨3, false, true⟩, ⟨3, false, true⟩, ⟨3, false, true⟩, ⟨3, false, true⟩,
    ⟨3, false, true⟩, ⟨3, false, true⟩, ⟨3, false, true⟩, ⟨3, false, true⟩, ⟨3, false, true⟩,
    ⟨3, false, true⟩, ⟨3, false, true⟩, ⟨3, false, true⟩, ⟨3, false, false⟩, ⟨3, false, false⟩,
    ⟨3, false, false⟩, ⟨3, false, false⟩, ⟨3, false, false⟩, ⟨3, false, false⟩, ⟨3, false, false⟩,
    ⟨3, false, true⟩, ⟨3, false, true⟩, ⟨3, false, true⟩, ⟨3, false, true⟩, ⟨3, false, true⟩,
    ⟨3, false, true⟩, ⟨3, false, true⟩, ⟨2, false, true⟩, ⟨2, false, true⟩, ⟨2, false, true⟩,
    ⟨2, false, true⟩, ⟨2, false, true⟩, ⟨4, false, true⟩, ⟨4, false, true⟩, ⟨4, false, true⟩,
    ⟨4, false, true⟩, ⟨4, false, true⟩, ⟨3, false, true⟩, ⟨3, false, true⟩, ⟨3, false, true⟩,
    ⟨3, false, true⟩, ⟨3, false, true⟩, ⟨2, false, true⟩, ⟨2, false, true⟩, ⟨2, false, true⟩,
    ⟨2, false, true⟩ ]

/-- `EstTiming` without the modes that `EstModeSupportTbl` leaves out: the bit of a mode, its
resolution and its refresh rate.
-/
def estTiming : List (Nat × U16 × U16 × U16) :=
  [ (0, 0x320, 0x258, 6000), (2, 0x280, 0x1E0, 7500), (3, 0x280, 0x1E0, 7200),
    (5, 0x280, 0x1E0, 6000), (8, 0x500, 0x400, 7500), (9, 0x400, 0x300, 7500),
    (10, 0x400, 0x300, 7000), (11, 0x400, 0x300, 6000), (14, 0x320, 0x258, 7500),
    (15, 0x320, 0x258, 7200) ]

-----------------------------------------------------------------------------------------
-- Video formats
-----------------------------------------------------------------------------------------

/-- A VIC that the tables have an entry for, as the index of the entry. -/
structure FormatVic where
  index : Fin 111
deriving DecidableEq

/-- A number as a VIC. -/
def FormatVic.ofVic (vic : Nat) : Option FormatVic :=
  if inside : 0 < vic ∧ vic ≤ 111 then some ⟨⟨vic - 1, by omega⟩⟩ else none

/-- `cbGetCEAFractRRClock`. -/
def cbGetCeaFractRrClock (oriClock : U32) : U32 := cbRound (oriClock * 100) 1001 .nearest * 10

/-- `cbGetCEAFractRefrate`. -/
def cbGetCeaFractRefrate (oriRefrate : U32) : U32 :=
  if oriRefrate % 600 ≠ 0 then 0 else cbRound (oriRefrate * 1000) 1001 .nearest

/-- `cbIsCeaNTSCCompatMode`. -/
def cbIsCeaNtscCompatMode (timing : TimingAttrib) : Bool :=
  timing.formatVIC ≠ 0 ∧ (timing.yRes = 240 ∨ timing.yRes = 480)

namespace FormatVic

variable (format : FormatVic)

def vic : U16 := .ofNat 16 (format.index.val + 1)

/-- The entry of `HDMIFormatTimingTbl`. -/
def timing : TimingAttrib := hdmiFormatTimingTbl.getD format.index.val .zero

/-- The entry of `CEAVideoFormatTable`. -/
def matrix : HdmiFormatMtx := ceaVideoFormatTable.getD format.index.val ⟨0, false, false⟩

/-- The refresh rate of the entry times 1000 / 1001, or 0. -/
def fractRefrate : U16 := (cbGetCeaFractRefrate (format.timing.refreshRate.setWidth 32)).setWidth 16

/-- The clock of the entry times 1000 / 1001. -/
def fractClock : U32 := cbGetCeaFractRrClock format.timing.pixelClock

/-- The timing that `cbEDIDModule_AddSvdFormat` makes of the entries. -/
def svdTiming (isNative : Bool) : DeviceTimingInfo where
  timingType := .svd
  fullTiming :=
    if cbIsCeaNtscCompatMode format.timing then
      { format.timing with refreshRate := format.fractRefrate, pixelClock := format.fractClock }
    else format.timing
  aspectRatio := format.matrix.aspectRatio
  isSupportMono := false
  isSupportStereo := false
  isNativeMode := isNative
  isPreferMode := false
  isInterLaced := format.matrix.interlace
  isSupportYCbCr420 := false

/-- The entries of the tables are in the order of the VICs. -/
theorem formatVIC_timing : format.timing.formatVIC = format.vic := by
  have all : ∀ index : Fin 111, (hdmiFormatTimingTbl.getD index.val .zero).formatVIC
      = .ofNat 16 (index.val + 1) := by
    decide +kernel
  exact all format.index

theorem formatVIC_svdTiming (isNative : Bool)
    : (format.svdTiming isNative).fullTiming.formatVIC = format.vic := by
  rw [svdTiming]
  split
  · exact format.formatVIC_timing
  · exact format.formatVIC_timing

theorem toNat_vic : format.vic.toNat = format.index.val + 1 := by
  have inside := format.index.isLt
  rw [vic, BitVec.toNat_ofNat, Nat.mod_eq_of_lt (by omega)]

theorem vic_ne_zero : format.vic ≠ 0 := by
  intro zero
  have value := format.toNat_vic
  rw [zero] at value
  simp at value

theorem vic_inj {left right : FormatVic} (same : left.vic = right.vic) : left = right := by
  have value := congrArg BitVec.toNat same
  rw [toNat_vic, toNat_vic] at value
  have index : left.index = right.index := Fin.ext (by omega)
  rcases left with ⟨first⟩
  rcases right with ⟨second⟩
  exact congrArg FormatVic.mk index

end FormatVic

-----------------------------------------------------------------------------------------
-- Short video descriptors
-----------------------------------------------------------------------------------------

/-- A VIC of the formats that are no HDMI VICs. -/
def normalFormat (formatIdx : U8) : Option FormatVic :=
  if formatIdx = 0 ∨ cbiosHdmiNormalVicCounts < formatIdx.toNat then none
  else FormatVic.ofVic formatIdx.toNat

/-- `cbEDIDModule_GetFmtIdxFromSVD`: the VIC and if it is native. -/
def cbEdidModuleGetFmtIdxFromSvd (svd : U8) : Option (FormatVic × Bool) :=
  if 1 ≤ svd ∧ svd ≤ 64 then (normalFormat (svd &&& 0x7F)).map (·, false)
  else if 65 ≤ svd ∧ svd ≤ 127 then (normalFormat svd).map (·, false)
  else if 129 ≤ svd ∧ svd ≤ 192 then (normalFormat (svd &&& 0x7F)).map (·, true)
  else if 193 ≤ svd ∧ svd ≤ 253 then (normalFormat svd).map (·, false)
  else none

-----------------------------------------------------------------------------------------
-- The frequencies of a VIC
-----------------------------------------------------------------------------------------

/-- `cbEdidModule_IsEquivalentModeExist`, with the refresh rate and the clock of the equivalent
mode.
-/
def cbEdidModuleIsEquivalentModeExist (vic : U16) : Option (U32 × U32) :=
  match FormatVic.ofVic vic.toNat with
  | none => none
  | some format =>
    if cbGetCeaFractRefrate (format.timing.refreshRate.setWidth 32) = 0 then none
    else if cbIsCeaNtscCompatMode format.timing then
      some (format.timing.refreshRate.setWidth 32, format.timing.pixelClock)
    else
      some (cbGetCeaFractRefrate (format.timing.refreshRate.setWidth 32),
        cbGetCeaFractRrClock format.timing.pixelClock)

/-- `cbGetDiff`. -/
def cbGetDiff (a b : U32) : U32 := if b < a then a - b else b - a

/-- `cbEdidModule_IsRefreshInCEARange`, with the refresh rate and the clock that the request stands
for.
-/
def cbEdidModuleIsRefreshInCeaRange (refreshRate formatVIC : U16) : Option (U16 × U32) :=
  match FormatVic.ofVic formatVIC.toNat with
  | none => none
  | some format =>
    let intRefRate := format.timing.refreshRate
    let fractRefRate := format.fractRefrate
    let middle := (fractRefRate.setWidth 32 + intRefRate.setWidth 32) / 2
    let refValue :=
      if fractRefRate = 0 ∨ middle < refreshRate.setWidth 32 then intRefRate else fractRefRate
    if refreshRate = 0 ∨ refValue = 0 then none
    else
      let difference := cbGetDiff (refreshRate.setWidth 32) (refValue.setWidth 32)
      if difference * 1000 / refValue.setWidth 32 ≤ 5 then
        some (refValue,
          if refValue = intRefRate then format.timing.pixelClock else format.fractClock)
      else none

end Cx4Kernel.Cbios
