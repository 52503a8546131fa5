import SteadyFetch.Text.CharMap

set_option autoImplicit false

/-! # Canonical combining classes -/

namespace SteadyFetch

/-- The combining class of every character whose class is not zero. -/
def combiningClasses : CharMap := .ofText "
  300: E6 E6 E6 E6 E6 E6 E6 E6 E6 E6 E6 E6 E6 E6 E6 E6 E6 E6 E6 E6 E6 E8 DC DC DC DC E8 D8 DC DC DC
  DC DC CA CA DC DC DC DC CA CA DC DC DC DC DC DC DC DC DC DC DC 1 1 1 1 1 DC DC DC DC E6 E6 E6 E6
  E6 E6 E6 E6 F0 E6 DC DC DC E6 E6 E6 DC DC - E6 E6 E6 DC DC DC DC E6 E8 DC DC E6 E9 EA EA E9 EA EA
  E9 E6 E6 E6 E6 E6 E6 E6 E6 E6 E6 E6 E6 E6 483: E6 E6 E6 E6 E6 591: DC E6 E6 E6 E6 DC E6 E6 E6 DE
  DC E6 E6 E6 E6 E6 E6 DC DC DC DC DC DC E6 E6 DC E6 E6 DE E4 E6 A B C D E F 10 11 12 13 13 14 15
  16 - 17 - 18 19 - E6 DC - 12 610: E6 E6 E6 E6 E6 E6 E6 E6 1E 1F 20 64B: 1B 1C 1D 1E 1F 20 21 22
  E6 E6 DC DC E6 E6 E6 E6 E6 DC E6 E6 DC 670: 23 6D6: E6 E6 E6 E6 E6 E6 E6 - - E6 E6 E6 E6 DC E6 -
  - E6 E6 - DC E6 E6 DC 711: 24 730: E6 DC E6 E6 DC E6 E6 DC DC DC E6 DC DC E6 DC E6 E6 E6 DC E6 DC
  E6 DC E6 DC E6 E6 7EB: E6 E6 E6 E6 E6 E6 E6 DC E6 7FD: DC 816: E6 E6 E6 E6 - E6 E6 E6 E6 E6 E6 E6
  E6 E6 - E6 E6 E6 - E6 E6 E6 E6 E6 859: DC DC DC 897: E6 E6 DC DC DC E6 E6 E6 E6 8CA: E6 E6 E6 E6
  E6 DC DC DC DC DC E6 E6 E6 E6 E6 E6 E6 E6 E6 E6 E6 E6 E6 E6 - DC E6 E6 DC E6 E6 DC E6 E6 E6 DC DC
  DC 1B 1C 1D E6 E6 E6 DC E6 E6 DC DC E6 E6 E6 E6 E6 93C: 7 94D: 9 951: E6 DC E6 E6 9BC: 7 9CD: 9
  9FE: E6 A3C: 7 A4D: 9 ABC: 7 ACD: 9 B3C: 7 B4D: 9 BCD: 9 C3C: 7 C4D: 9 C55: 54 5B CBC: 7 CCD: 9
  D3B: 9 9 D4D: 9 DCA: 9 E38: 67 67 9 E48: 6B 6B 6B 6B EB8: 76 76 9 EC8: 7A 7A 7A 7A F18: DC DC
  F35: DC - DC - D8 F71: 81 82 - 84 F7A: 82 82 82 82 - - 82 - E6 E6 9 - E6 E6 FC6: DC 1037: 7 - 9 9
  108D: DC 135D: E6 E6 E6 1714: 9 9 1734: 9 17D2: 9 17DD: E6 18A9: E4 1939: DE E6 DC 1A17: E6 DC
  1A60: 9 1A75: E6 E6 E6 E6 E6 E6 E6 E6 - - DC 1AB0: E6 E6 E6 E6 E6 DC DC DC DC DC DC E6 E6 DC - DC
  DC E6 E6 DC DC E6 E6 E6 E6 E6 DC E6 E6 E6 E6 E6 E6 E6 E6 E6 E6 E6 E6 E6 E6 E6 E6 E6 E6 E6 - - E6
  E6 E6 E6 E6 E6 E6 E6 E6 E6 E6 E6 1B34: 7 1B44: 9 1B6B: E6 DC E6 E6 E6 E6 E6 E6 E6 1BAA: 9 9 1BE6:
  7 1BF2: 9 9 1C37: 7 1CD0: E6 E6 E6 - 1 DC DC DC DC DC E6 E6 DC DC DC DC E6 - 1 1 1 1 1 1 1 1CED:
  DC 1CF4: E6 1CF8: E6 E6 1DC0: E6 E6 DC E6 E6 E6 E6 E6 E6 E6 DC E6 E6 EA D6 DC CA E6 E6 E6 E6 E6
  E6 E6 E6 E6 E6 E6 E6 E6 E6 E6 E6 E6 E6 E6 E6 E6 E6 E6 E6 E6 E6 E6 E6 E6 E6 E6 E6 E6 E6 E6 E6 E6
  E8 E4 E4 DC DA E6 E9 DC E6 DC 20D0: E6 E6 1 1 E6 E6 E6 E6 1 1 1 E6 E6 20E1: E6 20E5: 1 1 E6 DC E6
  1 1 DC DC DC DC E6 2CEF: E6 E6 E6 2D7F: 9 2DE0: E6 E6 E6 E6 E6 E6 E6 E6 E6 E6 E6 E6 E6 E6 E6 E6
  E6 E6 E6 E6 E6 E6 E6 E6 E6 E6 E6 E6 E6 E6 E6 E6 302A: DA E4 E8 DE E0 E0 3099: 8 8 A66F: E6 A674:
  E6 E6 E6 E6 E6 E6 E6 E6 E6 E6 A69E: E6 E6 A6F0: E6 E6 A806: 9 A82C: 9 A8C4: 9 A8E0: E6 E6 E6 E6
  E6 E6 E6 E6 E6 E6 E6 E6 E6 E6 E6 E6 E6 E6 A92B: DC DC DC A953: 9 A9B3: 7 A9C0: 9 AAB0: E6 - E6 E6
  DC - - E6 E6 AABE: E6 E6 - E6 AAF6: 9 ABED: 9 FB1E: 1A FE20: E6 E6 E6 E6 E6 E6 E6 DC DC DC DC DC
  DC DC E6 E6 101FD: DC 102E0: DC 10376: E6 E6 E6 E6 E6 10A0D: DC - E6 10A38: E6 1 DC 10A3F: 9
  10AE5: E6 DC 10D24: E6 E6 E6 E6 10D69: E6 E6 E6 E6 E6 10EAB: E6 E6 10EFA: DC DC - DC DC DC 10F46:
  DC DC E6 E6 E6 DC E6 DC DC DC DC 10F82: E6 DC E6 DC 11046: 9 11070: 9 1107F: 9 110B9: 9 7 11100:
  E6 E6 E6 11133: 9 9 11173: 7 111C0: 9 111CA: 7 11235: 9 7 112E9: 7 9 1133B: 7 7 1134D: 9 11366:
  E6 E6 E6 E6 E6 E6 E6 11370: E6 E6 E6 E6 E6 113CE: 9 9 9 113E1: E6 E6 11442: 9 11446: 7 1145E: E6
  114C2: 9 7 115BF: 9 7 1163F: 9 116B6: 9 7 1172B: 9 11839: 9 7 1193D: 9 9 11943: 7 119E0: 9 11A34:
  9 11A47: 9 11A99: 9 11C3F: 9 11D42: 7 - 9 9 11D97: 9 11F41: 9 9 1612F: 9 16AF0: 1 1 1 1 1 16B30:
  E6 E6 E6 E6 E6 E6 E6 16FF0: 6 6 1BC9E: 1 1D165: D8 D8 1 1 1 1D16D: E2 D8 D8 D8 D8 D8 1D17B: DC DC
  DC DC DC DC DC DC - - E6 E6 E6 E6 E6 DC DC 1D1AA: E6 E6 E6 E6 1D242: E6 E6 E6 1E000: E6 E6 E6 E6
  E6 E6 E6 - E6 E6 E6 E6 E6 E6 E6 E6 E6 E6 E6 E6 E6 E6 E6 E6 E6 - - E6 E6 E6 E6 E6 E6 E6 - E6 E6 -
  E6 E6 E6 E6 E6 1E08F: E6 1E130: E6 E6 E6 E6 E6 E6 E6 1E2AE: E6 1E2EC: E6 E6 E6 E6 1E4EC: E8 E8 DC
  E6 1E5EE: E6 DC 1E6E3: E6 - - E6 1E6EE: E6 E6 1E6F5: E6 1E8D0: DC DC DC DC DC DC DC 1E944: E6 E6
  E6 E6 E6 E6 7"

end SteadyFetch
