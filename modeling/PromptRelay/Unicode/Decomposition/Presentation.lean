namespace PromptRelay.Unicode.Decomposition

def presentationBlocks : List (Nat × Nat × List (List Nat)) :=
  [(0xFB00, 0xFB06, [[0x0066, 0x0066], [0x0066, 0x0069], [0x0066, 0x006C],
     [0x0066, 0x0066, 0x0069], [0x0066, 0x0066, 0x006C], [0x0073, 0x0074], [0x0073, 0x0074]]),
   (0xFB13, 0xFB17, [[0x0574, 0x0576], [0x0574, 0x0565], [0x0574, 0x056B], [0x057E, 0x0576],
     [0x0574, 0x056D]]),
   (0xFB1D, 0xFB1D, [[0x05D9, 0x05B4]]),
   (0xFB1F, 0xFB36, [[0x05F2, 0x05B7], [0x05E2], [0x05D0], [0x05D3], [0x05D4], [0x05DB],
     [0x05DC], [0x05DD], [0x05E8], [0x05EA], [0x002B], [0x05E9, 0x05C1], [0x05E9, 0x05C2],
     [0x05E9, 0x05BC, 0x05C1], [0x05E9, 0x05BC, 0x05C2], [0x05D0, 0x05B7], [0x05D0, 0x05B8],
     [0x05D0, 0x05BC], [0x05D1, 0x05BC], [0x05D2, 0x05BC], [0x05D3, 0x05BC], [0x05D4, 0x05BC],
     [0x05D5, 0x05BC], [0x05D6, 0x05BC]]),
   (0xFB38, 0xFB3C, [[0x05D8, 0x05BC], [0x05D9, 0x05BC], [0x05DA, 0x05BC], [0x05DB, 0x05BC],
     [0x05DC, 0x05BC]]),
   (0xFB3E, 0xFB3E, [[0x05DE, 0x05BC]]),
   (0xFB40, 0xFB41, [[0x05E0, 0x05BC], [0x05E1, 0x05BC]]),
   (0xFB43, 0xFB44, [[0x05E3, 0x05BC], [0x05E4, 0x05BC]]),
   (0xFB46, 0xFBB1, [[0x05E6, 0x05BC], [0x05E7, 0x05BC], [0x05E8, 0x05BC], [0x05E9, 0x05BC],
     [0x05EA, 0x05BC], [0x05D5, 0x05B9], [0x05D1, 0x05BF], [0x05DB, 0x05BF], [0x05E4, 0x05BF],
     [0x05D0, 0x05DC], [0x0671], [0x0671], [0x067B], [0x067B], [0x067B], [0x067B], [0x067E],
     [0x067E], [0x067E], [0x067E], [0x0680], [0x0680], [0x0680], [0x0680], [0x067A], [0x067A],
     [0x067A], [0x067A], [0x067F], [0x067F], [0x067F], [0x067F], [0x0679], [0x0679], [0x0679],
     [0x0679], [0x06A4], [0x06A4], [0x06A4], [0x06A4], [0x06A6], [0x06A6], [0x06A6], [0x06A6],
     [0x0684], [0x0684], [0x0684], [0x0684], [0x0683], [0x0683], [0x0683], [0x0683], [0x0686],
     [0x0686], [0x0686], [0x0686], [0x0687], [0x0687], [0x0687], [0x0687], [0x068D], [0x068D],
     [0x068C], [0x068C], [0x068E], [0x068E], [0x0688], [0x0688], [0x0698], [0x0698], [0x0691],
     [0x0691], [0x06A9], [0x06A9], [0x06A9], [0x06A9], [0x06AF], [0x06AF], [0x06AF], [0x06AF],
     [0x06B3], [0x06B3], [0x06B3], [0x06B3], [0x06B1], [0x06B1], [0x06B1], [0x06B1], [0x06BA],
     [0x06BA], [0x06BB], [0x06BB], [0x06BB], [0x06BB], [0x06D5, 0x0654], [0x06D5, 0x0654],
     [0x06C1], [0x06C1], [0x06C1], [0x06C1], [0x06BE], [0x06BE], [0x06BE], [0x06BE], [0x06D2],
     [0x06D2], [0x06D2, 0x0654], [0x06D2, 0x0654]]),
   (0xFBD3, 0xFD3D, [[0x06AD], [0x06AD], [0x06AD], [0x06AD], [0x06C7], [0x06C7], [0x06C6],
     [0x06C6], [0x06C8], [0x06C8], [0x06C7, 0x0674], [0x06CB], [0x06CB], [0x06C5], [0x06C5],
     [0x06C9], [0x06C9], [0x06D0], [0x06D0], [0x06D0], [0x06D0], [0x0649], [0x0649],
     [0x064A, 0x0654, 0x0627], [0x064A, 0x0654, 0x0627], [0x064A, 0x0654, 0x06D5],
     [0x064A, 0x0654, 0x06D5], [0x064A, 0x0654, 0x0648], [0x064A, 0x0654, 0x0648],
     [0x064A, 0x0654, 0x06C7], [0x064A, 0x0654, 0x06C7], [0x064A, 0x0654, 0x06C6],
     [0x064A, 0x0654, 0x06C6], [0x064A, 0x0654, 0x06C8], [0x064A, 0x0654, 0x06C8],
     [0x064A, 0x0654, 0x06D0], [0x064A, 0x0654, 0x06D0], [0x064A, 0x0654, 0x06D0],
     [0x064A, 0x0654, 0x0649], [0x064A, 0x0654, 0x0649], [0x064A, 0x0654, 0x0649], [0x06CC],
     [0x06CC], [0x06CC], [0x06CC], [0x064A, 0x0654, 0x062C], [0x064A, 0x0654, 0x062D],
     [0x064A, 0x0654, 0x0645], [0x064A, 0x0654, 0x0649], [0x064A, 0x0654, 0x064A],
     [0x0628, 0x062C], [0x0628, 0x062D], [0x0628, 0x062E], [0x0628, 0x0645], [0x0628, 0x0649],
     [0x0628, 0x064A], [0x062A, 0x062C], [0x062A, 0x062D], [0x062A, 0x062E], [0x062A, 0x0645],
     [0x062A, 0x0649], [0x062A, 0x064A], [0x062B, 0x062C], [0x062B, 0x0645], [0x062B, 0x0649],
     [0x062B, 0x064A], [0x062C, 0x062D], [0x062C, 0x0645], [0x062D, 0x062C], [0x062D, 0x0645],
     [0x062E, 0x062C], [0x062E, 0x062D], [0x062E, 0x0645], [0x0633, 0x062C], [0x0633, 0x062D],
     [0x0633, 0x062E], [0x0633, 0x0645], [0x0635, 0x062D], [0x0635, 0x0645], [0x0636, 0x062C],
     [0x0636, 0x062D], [0x0636, 0x062E], [0x0636, 0x0645], [0x0637, 0x062D], [0x0637, 0x0645],
     [0x0638, 0x0645], [0x0639, 0x062C], [0x0639, 0x0645], [0x063A, 0x062C], [0x063A, 0x0645],
     [0x0641, 0x062C], [0x0641, 0x062D], [0x0641, 0x062E], [0x0641, 0x0645], [0x0641, 0x0649],
     [0x0641, 0x064A], [0x0642, 0x062D], [0x0642, 0x0645], [0x0642, 0x0649], [0x0642, 0x064A],
     [0x0643, 0x0627], [0x0643, 0x062C], [0x0643, 0x062D], [0x0643, 0x062E], [0x0643, 0x0644],
     [0x0643, 0x0645], [0x0643, 0x0649], [0x0643, 0x064A], [0x0644, 0x062C], [0x0644, 0x062D],
     [0x0644, 0x062E], [0x0644, 0x0645], [0x0644, 0x0649], [0x0644, 0x064A], [0x0645, 0x062C],
     [0x0645, 0x062D], [0x0645, 0x062E], [0x0645, 0x0645], [0x0645, 0x0649], [0x0645, 0x064A],
     [0x0646, 0x062C], [0x0646, 0x062D], [0x0646, 0x062E], [0x0646, 0x0645], [0x0646, 0x0649],
     [0x0646, 0x064A], [0x0647, 0x062C], [0x0647, 0x0645], [0x0647, 0x0649], [0x0647, 0x064A],
     [0x064A, 0x062C], [0x064A, 0x062D], [0x064A, 0x062E], [0x064A, 0x0645], [0x064A, 0x0649],
     [0x064A, 0x064A], [0x0630, 0x0670], [0x0631, 0x0670], [0x0649, 0x0670],
     [0x0020, 0x064C, 0x0651], [0x0020, 0x064D, 0x0651], [0x0020, 0x064E, 0x0651],
     [0x0020, 0x064F, 0x0651], [0x0020, 0x0650, 0x0651], [0x0020, 0x0651, 0x0670],
     [0x064A, 0x0654, 0x0631], [0x064A, 0x0654, 0x0632], [0x064A, 0x0654, 0x0645],
     [0x064A, 0x0654, 0x0646], [0x064A, 0x0654, 0x0649], [0x064A, 0x0654, 0x064A],
     [0x0628, 0x0631], [0x0628, 0x0632], [0x0628, 0x0645], [0x0628, 0x0646], [0x0628, 0x0649],
     [0x0628, 0x064A], [0x062A, 0x0631], [0x062A, 0x0632], [0x062A, 0x0645], [0x062A, 0x0646],
     [0x062A, 0x0649], [0x062A, 0x064A], [0x062B, 0x0631], [0x062B, 0x0632], [0x062B, 0x0645],
     [0x062B, 0x0646], [0x062B, 0x0649], [0x062B, 0x064A], [0x0641, 0x0649], [0x0641, 0x064A],
     [0x0642, 0x0649], [0x0642, 0x064A], [0x0643, 0x0627], [0x0643, 0x0644], [0x0643, 0x0645],
     [0x0643, 0x0649], [0x0643, 0x064A], [0x0644, 0x0645], [0x0644, 0x0649], [0x0644, 0x064A],
     [0x0645, 0x0627], [0x0645, 0x0645], [0x0646, 0x0631], [0x0646, 0x0632], [0x0646, 0x0645],
     [0x0646, 0x0646], [0x0646, 0x0649], [0x0646, 0x064A], [0x0649, 0x0670], [0x064A, 0x0631],
     [0x064A, 0x0632], [0x064A, 0x0645], [0x064A, 0x0646], [0x064A, 0x0649], [0x064A, 0x064A],
     [0x064A, 0x0654, 0x062C], [0x064A, 0x0654, 0x062D], [0x064A, 0x0654, 0x062E],
     [0x064A, 0x0654, 0x0645], [0x064A, 0x0654, 0x0647], [0x0628, 0x062C], [0x0628, 0x062D],
     [0x0628, 0x062E], [0x0628, 0x0645], [0x0628, 0x0647], [0x062A, 0x062C], [0x062A, 0x062D],
     [0x062A, 0x062E], [0x062A, 0x0645], [0x062A, 0x0647], [0x062B, 0x0645], [0x062C, 0x062D],
     [0x062C, 0x0645], [0x062D, 0x062C], [0x062D, 0x0645], [0x062E, 0x062C], [0x062E, 0x0645],
     [0x0633, 0x062C], [0x0633, 0x062D], [0x0633, 0x062E], [0x0633, 0x0645], [0x0635, 0x062D],
     [0x0635, 0x062E], [0x0635, 0x0645], [0x0636, 0x062C], [0x0636, 0x062D], [0x0636, 0x062E],
     [0x0636, 0x0645], [0x0637, 0x062D], [0x0638, 0x0645], [0x0639, 0x062C], [0x0639, 0x0645],
     [0x063A, 0x062C], [0x063A, 0x0645], [0x0641, 0x062C], [0x0641, 0x062D], [0x0641, 0x062E],
     [0x0641, 0x0645], [0x0642, 0x062D], [0x0642, 0x0645], [0x0643, 0x062C], [0x0643, 0x062D],
     [0x0643, 0x062E], [0x0643, 0x0644], [0x0643, 0x0645], [0x0644, 0x062C], [0x0644, 0x062D],
     [0x0644, 0x062E], [0x0644, 0x0645], [0x0644, 0x0647], [0x0645, 0x062C], [0x0645, 0x062D],
     [0x0645, 0x062E], [0x0645, 0x0645], [0x0646, 0x062C], [0x0646, 0x062D], [0x0646, 0x062E],
     [0x0646, 0x0645], [0x0646, 0x0647], [0x0647, 0x062C], [0x0647, 0x0645], [0x0647, 0x0670],
     [0x064A, 0x062C], [0x064A, 0x062D], [0x064A, 0x062E], [0x064A, 0x0645], [0x064A, 0x0647],
     [0x064A, 0x0654, 0x0645], [0x064A, 0x0654, 0x0647], [0x0628, 0x0645], [0x0628, 0x0647],
     [0x062A, 0x0645], [0x062A, 0x0647], [0x062B, 0x0645], [0x062B, 0x0647], [0x0633, 0x0645],
     [0x0633, 0x0647], [0x0634, 0x0645], [0x0634, 0x0647], [0x0643, 0x0644], [0x0643, 0x0645],
     [0x0644, 0x0645], [0x0646, 0x0645], [0x0646, 0x0647], [0x064A, 0x0645], [0x064A, 0x0647],
     [0x0640, 0x064E, 0x0651], [0x0640, 0x064F, 0x0651], [0x0640, 0x0650, 0x0651],
     [0x0637, 0x0649], [0x0637, 0x064A], [0x0639, 0x0649], [0x0639, 0x064A], [0x063A, 0x0649],
     [0x063A, 0x064A], [0x0633, 0x0649], [0x0633, 0x064A], [0x0634, 0x0649], [0x0634, 0x064A],
     [0x062D, 0x0649], [0x062D, 0x064A], [0x062C, 0x0649], [0x062C, 0x064A], [0x062E, 0x0649],
     [0x062E, 0x064A], [0x0635, 0x0649], [0x0635, 0x064A], [0x0636, 0x0649], [0x0636, 0x064A],
     [0x0634, 0x062C], [0x0634, 0x062D], [0x0634, 0x062E], [0x0634, 0x0645], [0x0634, 0x0631],
     [0x0633, 0x0631], [0x0635, 0x0631], [0x0636, 0x0631], [0x0637, 0x0649], [0x0637, 0x064A],
     [0x0639, 0x0649], [0x0639, 0x064A], [0x063A, 0x0649], [0x063A, 0x064A], [0x0633, 0x0649],
     [0x0633, 0x064A], [0x0634, 0x0649], [0x0634, 0x064A], [0x062D, 0x0649], [0x062D, 0x064A],
     [0x062C, 0x0649], [0x062C, 0x064A], [0x062E, 0x0649], [0x062E, 0x064A], [0x0635, 0x0649],
     [0x0635, 0x064A], [0x0636, 0x0649], [0x0636, 0x064A], [0x0634, 0x062C], [0x0634, 0x062D],
     [0x0634, 0x062E], [0x0634, 0x0645], [0x0634, 0x0631], [0x0633, 0x0631], [0x0635, 0x0631],
     [0x0636, 0x0631], [0x0634, 0x062C], [0x0634, 0x062D], [0x0634, 0x062E], [0x0634, 0x0645],
     [0x0633, 0x0647], [0x0634, 0x0647], [0x0637, 0x0645], [0x0633, 0x062C], [0x0633, 0x062D],
     [0x0633, 0x062E], [0x0634, 0x062C], [0x0634, 0x062D], [0x0634, 0x062E], [0x0637, 0x0645],
     [0x0638, 0x0645], [0x0627, 0x064B], [0x0627, 0x064B]]),
   (0xFD50, 0xFD8F, [[0x062A, 0x062C, 0x0645], [0x062A, 0x062D, 0x062C],
     [0x062A, 0x062D, 0x062C], [0x062A, 0x062D, 0x0645], [0x062A, 0x062E, 0x0645],
     [0x062A, 0x0645, 0x062C], [0x062A, 0x0645, 0x062D], [0x062A, 0x0645, 0x062E],
     [0x062C, 0x0645, 0x062D], [0x062C, 0x0645, 0x062D], [0x062D, 0x0645, 0x064A],
     [0x062D, 0x0645, 0x0649], [0x0633, 0x062D, 0x062C], [0x0633, 0x062C, 0x062D],
     [0x0633, 0x062C, 0x0649], [0x0633, 0x0645, 0x062D], [0x0633, 0x0645, 0x062D],
     [0x0633, 0x0645, 0x062C], [0x0633, 0x0645, 0x0645], [0x0633, 0x0645, 0x0645],
     [0x0635, 0x062D, 0x062D], [0x0635, 0x062D, 0x062D], [0x0635, 0x0645, 0x0645],
     [0x0634, 0x062D, 0x0645], [0x0634, 0x062D, 0x0645], [0x0634, 0x062C, 0x064A],
     [0x0634, 0x0645, 0x062E], [0x0634, 0x0645, 0x062E], [0x0634, 0x0645, 0x0645],
     [0x0634, 0x0645, 0x0645], [0x0636, 0x062D, 0x0649], [0x0636, 0x062E, 0x0645],
     [0x0636, 0x062E, 0x0645], [0x0637, 0x0645, 0x062D], [0x0637, 0x0645, 0x062D],
     [0x0637, 0x0645, 0x0645], [0x0637, 0x0645, 0x064A], [0x0639, 0x062C, 0x0645],
     [0x0639, 0x0645, 0x0645], [0x0639, 0x0645, 0x0645], [0x0639, 0x0645, 0x0649],
     [0x063A, 0x0645, 0x0645], [0x063A, 0x0645, 0x064A], [0x063A, 0x0645, 0x0649],
     [0x0641, 0x062E, 0x0645], [0x0641, 0x062E, 0x0645], [0x0642, 0x0645, 0x062D],
     [0x0642, 0x0645, 0x0645], [0x0644, 0x062D, 0x0645], [0x0644, 0x062D, 0x064A],
     [0x0644, 0x062D, 0x0649], [0x0644, 0x062C, 0x062C], [0x0644, 0x062C, 0x062C],
     [0x0644, 0x062E, 0x0645], [0x0644, 0x062E, 0x0645], [0x0644, 0x0645, 0x062D],
     [0x0644, 0x0645, 0x062D], [0x0645, 0x062D, 0x062C], [0x0645, 0x062D, 0x0645],
     [0x0645, 0x062D, 0x064A], [0x0645, 0x062C, 0x062D], [0x0645, 0x062C, 0x0645],
     [0x0645, 0x062E, 0x062C], [0x0645, 0x062E, 0x0645]]),
   (0xFD92, 0xFDC7, [[0x0645, 0x062C, 0x062E], [0x0647, 0x0645, 0x062C],
     [0x0647, 0x0645, 0x0645], [0x0646, 0x062D, 0x0645], [0x0646, 0x062D, 0x0649],
     [0x0646, 0x062C, 0x0645], [0x0646, 0x062C, 0x0645], [0x0646, 0x062C, 0x0649],
     [0x0646, 0x0645, 0x064A], [0x0646, 0x0645, 0x0649], [0x064A, 0x0645, 0x0645],
     [0x064A, 0x0645, 0x0645], [0x0628, 0x062E, 0x064A], [0x062A, 0x062C, 0x064A],
     [0x062A, 0x062C, 0x0649], [0x062A, 0x062E, 0x064A], [0x062A, 0x062E, 0x0649],
     [0x062A, 0x0645, 0x064A], [0x062A, 0x0645, 0x0649], [0x062C, 0x0645, 0x064A],
     [0x062C, 0x062D, 0x0649], [0x062C, 0x0645, 0x0649], [0x0633, 0x062E, 0x0649],
     [0x0635, 0x062D, 0x064A], [0x0634, 0x062D, 0x064A], [0x0636, 0x062D, 0x064A],
     [0x0644, 0x062C, 0x064A], [0x0644, 0x0645, 0x064A], [0x064A, 0x062D, 0x064A],
     [0x064A, 0x062C, 0x064A], [0x064A, 0x0645, 0x064A], [0x0645, 0x0645, 0x064A],
     [0x0642, 0x0645, 0x064A], [0x0646, 0x062D, 0x064A], [0x0642, 0x0645, 0x062D],
     [0x0644, 0x062D, 0x0645], [0x0639, 0x0645, 0x064A], [0x0643, 0x0645, 0x064A],
     [0x0646, 0x062C, 0x062D], [0x0645, 0x062E, 0x064A], [0x0644, 0x062C, 0x0645],
     [0x0643, 0x0645, 0x0645], [0x0644, 0x062C, 0x0645], [0x0646, 0x062C, 0x062D],
     [0x062C, 0x062D, 0x064A], [0x062D, 0x062C, 0x064A], [0x0645, 0x062C, 0x064A],
     [0x0641, 0x0645, 0x064A], [0x0628, 0x062D, 0x064A], [0x0643, 0x0645, 0x0645],
     [0x0639, 0x062C, 0x0645], [0x0635, 0x0645, 0x0645], [0x0633, 0x062E, 0x064A],
     [0x0646, 0x062C, 0x064A]]),
   (0xFDF0, 0xFDFC, [[0x0635, 0x0644, 0x06D2], [0x0642, 0x0644, 0x06D2],
     [0x0627, 0x0644, 0x0644, 0x0647], [0x0627, 0x0643, 0x0628, 0x0631],
     [0x0645, 0x062D, 0x0645, 0x062F], [0x0635, 0x0644, 0x0639, 0x0645],
     [0x0631, 0x0633, 0x0648, 0x0644], [0x0639, 0x0644, 0x064A, 0x0647],
     [0x0648, 0x0633, 0x0644, 0x0645], [0x0635, 0x0644, 0x0649],
     [0x0635, 0x0644, 0x0649, 0x0020, 0x0627, 0x0644, 0x0644, 0x0647, 0x0020, 0x0639, 0x0644,
       0x064A, 0x0647, 0x0020, 0x0648, 0x0633, 0x0644, 0x0645],
     [0x062C, 0x0644, 0x0020, 0x062C, 0x0644, 0x0627, 0x0644, 0x0647],
     [0x0631, 0x06CC, 0x0627, 0x0644]]),
   (0xFE10, 0xFE19, [[0x002C], [0x3001], [0x3002], [0x003A], [0x003B], [0x0021], [0x003F],
     [0x3016], [0x3017], [0x002E, 0x002E, 0x002E]]),
   (0xFE30, 0xFE44, [[0x002E, 0x002E], [0x2014], [0x2013], [0x005F], [0x005F], [0x0028],
     [0x0029], [0x007B], [0x007D], [0x3014], [0x3015], [0x3010], [0x3011], [0x300A], [0x300B],
     [0x3008], [0x3009], [0x300C], [0x300D], [0x300E], [0x300F]]),
   (0xFE47, 0xFE52, [[0x005B], [0x005D], [0x0020, 0x0305], [0x0020, 0x0305], [0x0020, 0x0305],
     [0x0020, 0x0305], [0x005F], [0x005F], [0x005F], [0x002C], [0x3001], [0x002E]]),
   (0xFE54, 0xFE66, [[0x003B], [0x003A], [0x003F], [0x0021], [0x2014], [0x0028], [0x0029],
     [0x007B], [0x007D], [0x3014], [0x3015], [0x0023], [0x0026], [0x002A], [0x002B], [0x002D],
     [0x003C], [0x003E], [0x003D]]),
   (0xFE68, 0xFE6B, [[0x005C], [0x0024], [0x0025], [0x0040]]),
   (0xFE70, 0xFE72, [[0x0020, 0x064B], [0x0640, 0x064B], [0x0020, 0x064C]]),
   (0xFE74, 0xFE74, [[0x0020, 0x064D]]),
   (0xFE76, 0xFEFC, [[0x0020, 0x064E], [0x0640, 0x064E], [0x0020, 0x064F], [0x0640, 0x064F],
     [0x0020, 0x0650], [0x0640, 0x0650], [0x0020, 0x0651], [0x0640, 0x0651], [0x0020, 0x0652],
     [0x0640, 0x0652], [0x0621], [0x0627, 0x0653], [0x0627, 0x0653], [0x0627, 0x0654],
     [0x0627, 0x0654], [0x0648, 0x0654], [0x0648, 0x0654], [0x0627, 0x0655], [0x0627, 0x0655],
     [0x064A, 0x0654], [0x064A, 0x0654], [0x064A, 0x0654], [0x064A, 0x0654], [0x0627],
     [0x0627], [0x0628], [0x0628], [0x0628], [0x0628], [0x0629], [0x0629], [0x062A], [0x062A],
     [0x062A], [0x062A], [0x062B], [0x062B], [0x062B], [0x062B], [0x062C], [0x062C], [0x062C],
     [0x062C], [0x062D], [0x062D], [0x062D], [0x062D], [0x062E], [0x062E], [0x062E], [0x062E],
     [0x062F], [0x062F], [0x0630], [0x0630], [0x0631], [0x0631], [0x0632], [0x0632], [0x0633],
     [0x0633], [0x0633], [0x0633], [0x0634], [0x0634], [0x0634], [0x0634], [0x0635], [0x0635],
     [0x0635], [0x0635], [0x0636], [0x0636], [0x0636], [0x0636], [0x0637], [0x0637], [0x0637],
     [0x0637], [0x0638], [0x0638], [0x0638], [0x0638], [0x0639], [0x0639], [0x0639], [0x0639],
     [0x063A], [0x063A], [0x063A], [0x063A], [0x0641], [0x0641], [0x0641], [0x0641], [0x0642],
     [0x0642], [0x0642], [0x0642], [0x0643], [0x0643], [0x0643], [0x0643], [0x0644], [0x0644],
     [0x0644], [0x0644], [0x0645], [0x0645], [0x0645], [0x0645], [0x0646], [0x0646], [0x0646],
     [0x0646], [0x0647], [0x0647], [0x0647], [0x0647], [0x0648], [0x0648], [0x0649], [0x0649],
     [0x064A], [0x064A], [0x064A], [0x064A], [0x0644, 0x0627, 0x0653],
     [0x0644, 0x0627, 0x0653], [0x0644, 0x0627, 0x0654], [0x0644, 0x0627, 0x0654],
     [0x0644, 0x0627, 0x0655], [0x0644, 0x0627, 0x0655], [0x0644, 0x0627], [0x0644, 0x0627]]),
   (0xFF01, 0xFFBE, [[0x0021], [0x0022], [0x0023], [0x0024], [0x0025], [0x0026], [0x0027],
     [0x0028], [0x0029], [0x002A], [0x002B], [0x002C], [0x002D], [0x002E], [0x002F], [0x0030],
     [0x0031], [0x0032], [0x0033], [0x0034], [0x0035], [0x0036], [0x0037], [0x0038], [0x0039],
     [0x003A], [0x003B], [0x003C], [0x003D], [0x003E], [0x003F], [0x0040], [0x0041], [0x0042],
     [0x0043], [0x0044], [0x0045], [0x0046], [0x0047], [0x0048], [0x0049], [0x004A], [0x004B],
     [0x004C], [0x004D], [0x004E], [0x004F], [0x0050], [0x0051], [0x0052], [0x0053], [0x0054],
     [0x0055], [0x0056], [0x0057], [0x0058], [0x0059], [0x005A], [0x005B], [0x005C], [0x005D],
     [0x005E], [0x005F], [0x0060], [0x0061], [0x0062], [0x0063], [0x0064], [0x0065], [0x0066],
     [0x0067], [0x0068], [0x0069], [0x006A], [0x006B], [0x006C], [0x006D], [0x006E], [0x006F],
     [0x0070], [0x0071], [0x0072], [0x0073], [0x0074], [0x0075], [0x0076], [0x0077], [0x0078],
     [0x0079], [0x007A], [0x007B], [0x007C], [0x007D], [0x007E], [0x2985], [0x2986], [0x3002],
     [0x300C], [0x300D], [0x3001], [0x30FB], [0x30F2], [0x30A1], [0x30A3], [0x30A5], [0x30A7],
     [0x30A9], [0x30E3], [0x30E5], [0x30E7], [0x30C3], [0x30FC], [0x30A2], [0x30A4], [0x30A6],
     [0x30A8], [0x30AA], [0x30AB], [0x30AD], [0x30AF], [0x30B1], [0x30B3], [0x30B5], [0x30B7],
     [0x30B9], [0x30BB], [0x30BD], [0x30BF], [0x30C1], [0x30C4], [0x30C6], [0x30C8], [0x30CA],
     [0x30CB], [0x30CC], [0x30CD], [0x30CE], [0x30CF], [0x30D2], [0x30D5], [0x30D8], [0x30DB],
     [0x30DE], [0x30DF], [0x30E0], [0x30E1], [0x30E2], [0x30E4], [0x30E6], [0x30E8], [0x30E9],
     [0x30EA], [0x30EB], [0x30EC], [0x30ED], [0x30EF], [0x30F3], [0x3099], [0x309A], [0x1160],
     [0x1100], [0x1101], [0x11AA], [0x1102], [0x11AC], [0x11AD], [0x1103], [0x1104], [0x1105],
     [0x11B0], [0x11B1], [0x11B2], [0x11B3], [0x11B4], [0x11B5], [0x111A], [0x1106], [0x1107],
     [0x1108], [0x1121], [0x1109], [0x110A], [0x110B], [0x110C], [0x110D], [0x110E], [0x110F],
     [0x1110], [0x1111], [0x1112]]),
   (0xFFC2, 0xFFC7, [[0x1161], [0x1162], [0x1163], [0x1164], [0x1165], [0x1166]]),
   (0xFFCA, 0xFFCF, [[0x1167], [0x1168], [0x1169], [0x116A], [0x116B], [0x116C]]),
   (0xFFD2, 0xFFD7, [[0x116D], [0x116E], [0x116F], [0x1170], [0x1171], [0x1172]]),
   (0xFFDA, 0xFFDC, [[0x1173], [0x1174], [0x1175]]),
   (0xFFE0, 0xFFE6, [[0x00A2], [0x00A3], [0x00AC], [0x0020, 0x0304], [0x00A6], [0x00A5],
     [0x20A9]]),
   (0xFFE8, 0xFFEE, [[0x2502], [0x2190], [0x2191], [0x2192], [0x2193], [0x25A0], [0x25CB]])]

end PromptRelay.Unicode.Decomposition
