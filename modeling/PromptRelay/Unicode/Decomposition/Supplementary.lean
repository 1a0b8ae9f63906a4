namespace PromptRelay.Unicode.Decomposition

def supplementaryBlocks : List (Nat × Nat × List (List Nat)) :=
  [(0x105C9, 0x105C9, [[0x105D2, 0x0307]]),
   (0x105E4, 0x105E4, [[0x105DA, 0x0307]]),
   (0x10781, 0x10785, [[0x02D0], [0x02D1], [0x00E6], [0x0299], [0x0253]]),
   (0x10787, 0x107B0, [[0x02A3], [0xAB66], [0x02A5], [0x02A4], [0x0256], [0x0257], [0x1D91],
     [0x0258], [0x025E], [0x02A9], [0x0264], [0x0262], [0x0260], [0x029B], [0x0127], [0x029C],
     [0x0267], [0x0284], [0x02AA], [0x02AB], [0x026C], [0x1DF04], [0xA78E], [0x026E],
     [0x1DF05], [0x028E], [0x1DF06], [0x00F8], [0x0276], [0x0277], [0x0071], [0x027A],
     [0x1DF08], [0x027D], [0x027E], [0x0280], [0x02A8], [0x02A6], [0xAB67], [0x02A7], [0x0288],
     [0x2C71]]),
   (0x107B2, 0x107BA, [[0x028F], [0x02A1], [0x02A2], [0x0298], [0x01C0], [0x01C1], [0x01C2],
     [0x1DF0A], [0x1DF1E]]),
   (0x1109A, 0x1109A, [[0x11099, 0x110BA]]),
   (0x1109C, 0x1109C, [[0x1109B, 0x110BA]]),
   (0x110AB, 0x110AB, [[0x110A5, 0x110BA]]),
   (0x1112E, 0x1112F, [[0x11131, 0x11127], [0x11132, 0x11127]]),
   (0x1134B, 0x1134C, [[0x11347, 0x1133E], [0x11347, 0x11357]]),
   (0x11383, 0x11383, [[0x11382, 0x113C9]]),
   (0x11385, 0x11385, [[0x11384, 0x113BB]]),
   (0x1138E, 0x1138E, [[0x1138B, 0x113C2]]),
   (0x11391, 0x11391, [[0x11390, 0x113C9]]),
   (0x113C5, 0x113C5, [[0x113C2, 0x113C2]]),
   (0x113C7, 0x113C8, [[0x113C2, 0x113B8], [0x113C2, 0x113C9]]),
   (0x114BB, 0x114BC, [[0x114B9, 0x114BA], [0x114B9, 0x114B0]]),
   (0x114BE, 0x114BE, [[0x114B9, 0x114BD]]),
   (0x115BA, 0x115BB, [[0x115B8, 0x115AF], [0x115B9, 0x115AF]]),
   (0x11938, 0x11938, [[0x11935, 0x11930]]),
   (0x16121, 0x16128, [[0x1611E, 0x1611E], [0x1611E, 0x16129], [0x1611E, 0x1611F],
     [0x16129, 0x1611F], [0x1611E, 0x16120], [0x1611E, 0x1611E, 0x1611F],
     [0x1611E, 0x16129, 0x1611F], [0x1611E, 0x1611E, 0x16120]]),
   (0x16D68, 0x16D6A, [[0x16D67, 0x16D67], [0x16D63, 0x16D67], [0x16D63, 0x16D67, 0x16D67]]),
   (0x1CCD6, 0x1CCF9, [[0x0041], [0x0042], [0x0043], [0x0044], [0x0045], [0x0046], [0x0047],
     [0x0048], [0x0049], [0x004A], [0x004B], [0x004C], [0x004D], [0x004E], [0x004F], [0x0050],
     [0x0051], [0x0052], [0x0053], [0x0054], [0x0055], [0x0056], [0x0057], [0x0058], [0x0059],
     [0x005A], [0x0030], [0x0031], [0x0032], [0x0033], [0x0034], [0x0035], [0x0036], [0x0037],
     [0x0038], [0x0039]]),
   (0x1D15E, 0x1D164, [[0x1D157, 0x1D165], [0x1D158, 0x1D165], [0x1D158, 0x1D165, 0x1D16E],
     [0x1D158, 0x1D165, 0x1D16F], [0x1D158, 0x1D165, 0x1D170], [0x1D158, 0x1D165, 0x1D171],
     [0x1D158, 0x1D165, 0x1D172]]),
   (0x1D1BB, 0x1D1C0, [[0x1D1B9, 0x1D165], [0x1D1BA, 0x1D165], [0x1D1B9, 0x1D165, 0x1D16E],
     [0x1D1BA, 0x1D165, 0x1D16E], [0x1D1B9, 0x1D165, 0x1D16F], [0x1D1BA, 0x1D165, 0x1D16F]]),
   (0x1D400, 0x1D454, [[0x0041], [0x0042], [0x0043], [0x0044], [0x0045], [0x0046], [0x0047],
     [0x0048], [0x0049], [0x004A], [0x004B], [0x004C], [0x004D], [0x004E], [0x004F], [0x0050],
     [0x0051], [0x0052], [0x0053], [0x0054], [0x0055], [0x0056], [0x0057], [0x0058], [0x0059],
     [0x005A], [0x0061], [0x0062], [0x0063], [0x0064], [0x0065], [0x0066], [0x0067], [0x0068],
     [0x0069], [0x006A], [0x006B], [0x006C], [0x006D], [0x006E], [0x006F], [0x0070], [0x0071],
     [0x0072], [0x0073], [0x0074], [0x0075], [0x0076], [0x0077], [0x0078], [0x0079], [0x007A],
     [0x0041], [0x0042], [0x0043], [0x0044], [0x0045], [0x0046], [0x0047], [0x0048], [0x0049],
     [0x004A], [0x004B], [0x004C], [0x004D], [0x004E], [0x004F], [0x0050], [0x0051], [0x0052],
     [0x0053], [0x0054], [0x0055], [0x0056], [0x0057], [0x0058], [0x0059], [0x005A], [0x0061],
     [0x0062], [0x0063], [0x0064], [0x0065], [0x0066], [0x0067]]),
   (0x1D456, 0x1D49C, [[0x0069], [0x006A], [0x006B], [0x006C], [0x006D], [0x006E], [0x006F],
     [0x0070], [0x0071], [0x0072], [0x0073], [0x0074], [0x0075], [0x0076], [0x0077], [0x0078],
     [0x0079], [0x007A], [0x0041], [0x0042], [0x0043], [0x0044], [0x0045], [0x0046], [0x0047],
     [0x0048], [0x0049], [0x004A], [0x004B], [0x004C], [0x004D], [0x004E], [0x004F], [0x0050],
     [0x0051], [0x0052], [0x0053], [0x0054], [0x0055], [0x0056], [0x0057], [0x0058], [0x0059],
     [0x005A], [0x0061], [0x0062], [0x0063], [0x0064], [0x0065], [0x0066], [0x0067], [0x0068],
     [0x0069], [0x006A], [0x006B], [0x006C], [0x006D], [0x006E], [0x006F], [0x0070], [0x0071],
     [0x0072], [0x0073], [0x0074], [0x0075], [0x0076], [0x0077], [0x0078], [0x0079], [0x007A],
     [0x0041]]),
   (0x1D49E, 0x1D49F, [[0x0043], [0x0044]]),
   (0x1D4A2, 0x1D4A2, [[0x0047]]),
   (0x1D4A5, 0x1D4A6, [[0x004A], [0x004B]]),
   (0x1D4A9, 0x1D4AC, [[0x004E], [0x004F], [0x0050], [0x0051]]),
   (0x1D4AE, 0x1D4B9, [[0x0053], [0x0054], [0x0055], [0x0056], [0x0057], [0x0058], [0x0059],
     [0x005A], [0x0061], [0x0062], [0x0063], [0x0064]]),
   (0x1D4BB, 0x1D4BB, [[0x0066]]),
   (0x1D4BD, 0x1D4C3, [[0x0068], [0x0069], [0x006A], [0x006B], [0x006C], [0x006D], [0x006E]]),
   (0x1D4C5, 0x1D505, [[0x0070], [0x0071], [0x0072], [0x0073], [0x0074], [0x0075], [0x0076],
     [0x0077], [0x0078], [0x0079], [0x007A], [0x0041], [0x0042], [0x0043], [0x0044], [0x0045],
     [0x0046], [0x0047], [0x0048], [0x0049], [0x004A], [0x004B], [0x004C], [0x004D], [0x004E],
     [0x004F], [0x0050], [0x0051], [0x0052], [0x0053], [0x0054], [0x0055], [0x0056], [0x0057],
     [0x0058], [0x0059], [0x005A], [0x0061], [0x0062], [0x0063], [0x0064], [0x0065], [0x0066],
     [0x0067], [0x0068], [0x0069], [0x006A], [0x006B], [0x006C], [0x006D], [0x006E], [0x006F],
     [0x0070], [0x0071], [0x0072], [0x0073], [0x0074], [0x0075], [0x0076], [0x0077], [0x0078],
     [0x0079], [0x007A], [0x0041], [0x0042]]),
   (0x1D507, 0x1D50A, [[0x0044], [0x0045], [0x0046], [0x0047]]),
   (0x1D50D, 0x1D514, [[0x004A], [0x004B], [0x004C], [0x004D], [0x004E], [0x004F], [0x0050],
     [0x0051]]),
   (0x1D516, 0x1D51C, [[0x0053], [0x0054], [0x0055], [0x0056], [0x0057], [0x0058], [0x0059]]),
   (0x1D51E, 0x1D539, [[0x0061], [0x0062], [0x0063], [0x0064], [0x0065], [0x0066], [0x0067],
     [0x0068], [0x0069], [0x006A], [0x006B], [0x006C], [0x006D], [0x006E], [0x006F], [0x0070],
     [0x0071], [0x0072], [0x0073], [0x0074], [0x0075], [0x0076], [0x0077], [0x0078], [0x0079],
     [0x007A], [0x0041], [0x0042]]),
   (0x1D53B, 0x1D53E, [[0x0044], [0x0045], [0x0046], [0x0047]]),
   (0x1D540, 0x1D544, [[0x0049], [0x004A], [0x004B], [0x004C], [0x004D]]),
   (0x1D546, 0x1D546, [[0x004F]]),
   (0x1D54A, 0x1D550, [[0x0053], [0x0054], [0x0055], [0x0056], [0x0057], [0x0058], [0x0059]]),
   (0x1D552, 0x1D6A5, [[0x0061], [0x0062], [0x0063], [0x0064], [0x0065], [0x0066], [0x0067],
     [0x0068], [0x0069], [0x006A], [0x006B], [0x006C], [0x006D], [0x006E], [0x006F], [0x0070],
     [0x0071], [0x0072], [0x0073], [0x0074], [0x0075], [0x0076], [0x0077], [0x0078], [0x0079],
     [0x007A], [0x0041], [0x0042], [0x0043], [0x0044], [0x0045], [0x0046], [0x0047], [0x0048],
     [0x0049], [0x004A], [0x004B], [0x004C], [0x004D], [0x004E], [0x004F], [0x0050], [0x0051],
     [0x0052], [0x0053], [0x0054], [0x0055], [0x0056], [0x0057], [0x0058], [0x0059], [0x005A],
     [0x0061], [0x0062], [0x0063], [0x0064], [0x0065], [0x0066], [0x0067], [0x0068], [0x0069],
     [0x006A], [0x006B], [0x006C], [0x006D], [0x006E], [0x006F], [0x0070], [0x0071], [0x0072],
     [0x0073], [0x0074], [0x0075], [0x0076], [0x0077], [0x0078], [0x0079], [0x007A], [0x0041],
     [0x0042], [0x0043], [0x0044], [0x0045], [0x0046], [0x0047], [0x0048], [0x0049], [0x004A],
     [0x004B], [0x004C], [0x004D], [0x004E], [0x004F], [0x0050], [0x0051], [0x0052], [0x0053],
     [0x0054], [0x0055], [0x0056], [0x0057], [0x0058], [0x0059], [0x005A], [0x0061], [0x0062],
     [0x0063], [0x0064], [0x0065], [0x0066], [0x0067], [0x0068], [0x0069], [0x006A], [0x006B],
     [0x006C], [0x006D], [0x006E], [0x006F], [0x0070], [0x0071], [0x0072], [0x0073], [0x0074],
     [0x0075], [0x0076], [0x0077], [0x0078], [0x0079], [0x007A], [0x0041], [0x0042], [0x0043],
     [0x0044], [0x0045], [0x0046], [0x0047], [0x0048], [0x0049], [0x004A], [0x004B], [0x004C],
     [0x004D], [0x004E], [0x004F], [0x0050], [0x0051], [0x0052], [0x0053], [0x0054], [0x0055],
     [0x0056], [0x0057], [0x0058], [0x0059], [0x005A], [0x0061], [0x0062], [0x0063], [0x0064],
     [0x0065], [0x0066], [0x0067], [0x0068], [0x0069], [0x006A], [0x006B], [0x006C], [0x006D],
     [0x006E], [0x006F], [0x0070], [0x0071], [0x0072], [0x0073], [0x0074], [0x0075], [0x0076],
     [0x0077], [0x0078], [0x0079], [0x007A], [0x0041], [0x0042], [0x0043], [0x0044], [0x0045],
     [0x0046], [0x0047], [0x0048], [0x0049], [0x004A], [0x004B], [0x004C], [0x004D], [0x004E],
     [0x004F], [0x0050], [0x0051], [0x0052], [0x0053], [0x0054], [0x0055], [0x0056], [0x0057],
     [0x0058], [0x0059], [0x005A], [0x0061], [0x0062], [0x0063], [0x0064], [0x0065], [0x0066],
     [0x0067], [0x0068], [0x0069], [0x006A], [0x006B], [0x006C], [0x006D], [0x006E], [0x006F],
     [0x0070], [0x0071], [0x0072], [0x0073], [0x0074], [0x0075], [0x0076], [0x0077], [0x0078],
     [0x0079], [0x007A], [0x0041], [0x0042], [0x0043], [0x0044], [0x0045], [0x0046], [0x0047],
     [0x0048], [0x0049], [0x004A], [0x004B], [0x004C], [0x004D], [0x004E], [0x004F], [0x0050],
     [0x0051], [0x0052], [0x0053], [0x0054], [0x0055], [0x0056], [0x0057], [0x0058], [0x0059],
     [0x005A], [0x0061], [0x0062], [0x0063], [0x0064], [0x0065], [0x0066], [0x0067], [0x0068],
     [0x0069], [0x006A], [0x006B], [0x006C], [0x006D], [0x006E], [0x006F], [0x0070], [0x0071],
     [0x0072], [0x0073], [0x0074], [0x0075], [0x0076], [0x0077], [0x0078], [0x0079], [0x007A],
     [0x0041], [0x0042], [0x0043], [0x0044], [0x0045], [0x0046], [0x0047], [0x0048], [0x0049],
     [0x004A], [0x004B], [0x004C], [0x004D], [0x004E], [0x004F], [0x0050], [0x0051], [0x0052],
     [0x0053], [0x0054], [0x0055], [0x0056], [0x0057], [0x0058], [0x0059], [0x005A], [0x0061],
     [0x0062], [0x0063], [0x0064], [0x0065], [0x0066], [0x0067], [0x0068], [0x0069], [0x006A],
     [0x006B], [0x006C], [0x006D], [0x006E], [0x006F], [0x0070], [0x0071], [0x0072], [0x0073],
     [0x0074], [0x0075], [0x0076], [0x0077], [0x0078], [0x0079], [0x007A], [0x0131], [0x0237]]),
   (0x1D6A8, 0x1D7CB, [[0x0391], [0x0392], [0x0393], [0x0394], [0x0395], [0x0396], [0x0397],
     [0x0398], [0x0399], [0x039A], [0x039B], [0x039C], [0x039D], [0x039E], [0x039F], [0x03A0],
     [0x03A1], [0x0398], [0x03A3], [0x03A4], [0x03A5], [0x03A6], [0x03A7], [0x03A8], [0x03A9],
     [0x2207], [0x03B1], [0x03B2], [0x03B3], [0x03B4], [0x03B5], [0x03B6], [0x03B7], [0x03B8],
     [0x03B9], [0x03BA], [0x03BB], [0x03BC], [0x03BD], [0x03BE], [0x03BF], [0x03C0], [0x03C1],
     [0x03C2], [0x03C3], [0x03C4], [0x03C5], [0x03C6], [0x03C7], [0x03C8], [0x03C9], [0x2202],
     [0x03B5], [0x03B8], [0x03BA], [0x03C6], [0x03C1], [0x03C0], [0x0391], [0x0392], [0x0393],
     [0x0394], [0x0395], [0x0396], [0x0397], [0x0398], [0x0399], [0x039A], [0x039B], [0x039C],
     [0x039D], [0x039E], [0x039F], [0x03A0], [0x03A1], [0x0398], [0x03A3], [0x03A4], [0x03A5],
     [0x03A6], [0x03A7], [0x03A8], [0x03A9], [0x2207], [0x03B1], [0x03B2], [0x03B3], [0x03B4],
     [0x03B5], [0x03B6], [0x03B7], [0x03B8], [0x03B9], [0x03BA], [0x03BB], [0x03BC], [0x03BD],
     [0x03BE], [0x03BF], [0x03C0], [0x03C1], [0x03C2], [0x03C3], [0x03C4], [0x03C5], [0x03C6],
     [0x03C7], [0x03C8], [0x03C9], [0x2202], [0x03B5], [0x03B8], [0x03BA], [0x03C6], [0x03C1],
     [0x03C0], [0x0391], [0x0392], [0x0393], [0x0394], [0x0395], [0x0396], [0x0397], [0x0398],
     [0x0399], [0x039A], [0x039B], [0x039C], [0x039D], [0x039E], [0x039F], [0x03A0], [0x03A1],
     [0x0398], [0x03A3], [0x03A4], [0x03A5], [0x03A6], [0x03A7], [0x03A8], [0x03A9], [0x2207],
     [0x03B1], [0x03B2], [0x03B3], [0x03B4], [0x03B5], [0x03B6], [0x03B7], [0x03B8], [0x03B9],
     [0x03BA], [0x03BB], [0x03BC], [0x03BD], [0x03BE], [0x03BF], [0x03C0], [0x03C1], [0x03C2],
     [0x03C3], [0x03C4], [0x03C5], [0x03C6], [0x03C7], [0x03C8], [0x03C9], [0x2202], [0x03B5],
     [0x03B8], [0x03BA], [0x03C6], [0x03C1], [0x03C0], [0x0391], [0x0392], [0x0393], [0x0394],
     [0x0395], [0x0396], [0x0397], [0x0398], [0x0399], [0x039A], [0x039B], [0x039C], [0x039D],
     [0x039E], [0x039F], [0x03A0], [0x03A1], [0x0398], [0x03A3], [0x03A4], [0x03A5], [0x03A6],
     [0x03A7], [0x03A8], [0x03A9], [0x2207], [0x03B1], [0x03B2], [0x03B3], [0x03B4], [0x03B5],
     [0x03B6], [0x03B7], [0x03B8], [0x03B9], [0x03BA], [0x03BB], [0x03BC], [0x03BD], [0x03BE],
     [0x03BF], [0x03C0], [0x03C1], [0x03C2], [0x03C3], [0x03C4], [0x03C5], [0x03C6], [0x03C7],
     [0x03C8], [0x03C9], [0x2202], [0x03B5], [0x03B8], [0x03BA], [0x03C6], [0x03C1], [0x03C0],
     [0x0391], [0x0392], [0x0393], [0x0394], [0x0395], [0x0396], [0x0397], [0x0398], [0x0399],
     [0x039A], [0x039B], [0x039C], [0x039D], [0x039E], [0x039F], [0x03A0], [0x03A1], [0x0398],
     [0x03A3], [0x03A4], [0x03A5], [0x03A6], [0x03A7], [0x03A8], [0x03A9], [0x2207], [0x03B1],
     [0x03B2], [0x03B3], [0x03B4], [0x03B5], [0x03B6], [0x03B7], [0x03B8], [0x03B9], [0x03BA],
     [0x03BB], [0x03BC], [0x03BD], [0x03BE], [0x03BF], [0x03C0], [0x03C1], [0x03C2], [0x03C3],
     [0x03C4], [0x03C5], [0x03C6], [0x03C7], [0x03C8], [0x03C9], [0x2202], [0x03B5], [0x03B8],
     [0x03BA], [0x03C6], [0x03C1], [0x03C0], [0x03DC], [0x03DD]]),
   (0x1D7CE, 0x1D7FF, [[0x0030], [0x0031], [0x0032], [0x0033], [0x0034], [0x0035], [0x0036],
     [0x0037], [0x0038], [0x0039], [0x0030], [0x0031], [0x0032], [0x0033], [0x0034], [0x0035],
     [0x0036], [0x0037], [0x0038], [0x0039], [0x0030], [0x0031], [0x0032], [0x0033], [0x0034],
     [0x0035], [0x0036], [0x0037], [0x0038], [0x0039], [0x0030], [0x0031], [0x0032], [0x0033],
     [0x0034], [0x0035], [0x0036], [0x0037], [0x0038], [0x0039], [0x0030], [0x0031], [0x0032],
     [0x0033], [0x0034], [0x0035], [0x0036], [0x0037], [0x0038], [0x0039]]),
   (0x1E030, 0x1E06D, [[0x0430], [0x0431], [0x0432], [0x0433], [0x0434], [0x0435], [0x0436],
     [0x0437], [0x0438], [0x043A], [0x043B], [0x043C], [0x043E], [0x043F], [0x0440], [0x0441],
     [0x0442], [0x0443], [0x0444], [0x0445], [0x0446], [0x0447], [0x0448], [0x044B], [0x044D],
     [0x044E], [0xA689], [0x04D9], [0x0456], [0x0458], [0x04E9], [0x04AF], [0x04CF], [0x0430],
     [0x0431], [0x0432], [0x0433], [0x0434], [0x0435], [0x0436], [0x0437], [0x0438], [0x043A],
     [0x043B], [0x043E], [0x043F], [0x0441], [0x0443], [0x0444], [0x0445], [0x0446], [0x0447],
     [0x0448], [0x044A], [0x044B], [0x0491], [0x0456], [0x0455], [0x045F], [0x04AB], [0xA651],
     [0x04B1]]),
   (0x1EE00, 0x1EE03, [[0x0627], [0x0628], [0x062C], [0x062F]]),
   (0x1EE05, 0x1EE1F, [[0x0648], [0x0632], [0x062D], [0x0637], [0x064A], [0x0643], [0x0644],
     [0x0645], [0x0646], [0x0633], [0x0639], [0x0641], [0x0635], [0x0642], [0x0631], [0x0634],
     [0x062A], [0x062B], [0x062E], [0x0630], [0x0636], [0x0638], [0x063A], [0x066E], [0x06BA],
     [0x06A1], [0x066F]]),
   (0x1EE21, 0x1EE22, [[0x0628], [0x062C]]),
   (0x1EE24, 0x1EE24, [[0x0647]]),
   (0x1EE27, 0x1EE27, [[0x062D]]),
   (0x1EE29, 0x1EE32, [[0x064A], [0x0643], [0x0644], [0x0645], [0x0646], [0x0633], [0x0639],
     [0x0641], [0x0635], [0x0642]]),
   (0x1EE34, 0x1EE37, [[0x0634], [0x062A], [0x062B], [0x062E]]),
   (0x1EE39, 0x1EE39, [[0x0636]]),
   (0x1EE3B, 0x1EE3B, [[0x063A]]),
   (0x1EE42, 0x1EE42, [[0x062C]]),
   (0x1EE47, 0x1EE47, [[0x062D]]),
   (0x1EE49, 0x1EE49, [[0x064A]]),
   (0x1EE4B, 0x1EE4B, [[0x0644]]),
   (0x1EE4D, 0x1EE4F, [[0x0646], [0x0633], [0x0639]]),
   (0x1EE51, 0x1EE52, [[0x0635], [0x0642]]),
   (0x1EE54, 0x1EE54, [[0x0634]]),
   (0x1EE57, 0x1EE57, [[0x062E]]),
   (0x1EE59, 0x1EE59, [[0x0636]]),
   (0x1EE5B, 0x1EE5B, [[0x063A]]),
   (0x1EE5D, 0x1EE5D, [[0x06BA]]),
   (0x1EE5F, 0x1EE5F, [[0x066F]]),
   (0x1EE61, 0x1EE62, [[0x0628], [0x062C]]),
   (0x1EE64, 0x1EE64, [[0x0647]]),
   (0x1EE67, 0x1EE6A, [[0x062D], [0x0637], [0x064A], [0x0643]]),
   (0x1EE6C, 0x1EE72, [[0x0645], [0x0646], [0x0633], [0x0639], [0x0641], [0x0635], [0x0642]]),
   (0x1EE74, 0x1EE77, [[0x0634], [0x062A], [0x062B], [0x062E]]),
   (0x1EE79, 0x1EE7C, [[0x0636], [0x0638], [0x063A], [0x066E]]),
   (0x1EE7E, 0x1EE7E, [[0x06A1]]),
   (0x1EE80, 0x1EE89, [[0x0627], [0x0628], [0x062C], [0x062F], [0x0647], [0x0648], [0x0632],
     [0x062D], [0x0637], [0x064A]]),
   (0x1EE8B, 0x1EE9B, [[0x0644], [0x0645], [0x0646], [0x0633], [0x0639], [0x0641], [0x0635],
     [0x0642], [0x0631], [0x0634], [0x062A], [0x062B], [0x062E], [0x0630], [0x0636], [0x0638],
     [0x063A]]),
   (0x1EEA1, 0x1EEA3, [[0x0628], [0x062C], [0x062F]]),
   (0x1EEA5, 0x1EEA9, [[0x0648], [0x0632], [0x062D], [0x0637], [0x064A]]),
   (0x1EEAB, 0x1EEBB, [[0x0644], [0x0645], [0x0646], [0x0633], [0x0639], [0x0641], [0x0635],
     [0x0642], [0x0631], [0x0634], [0x062A], [0x062B], [0x062E], [0x0630], [0x0636], [0x0638],
     [0x063A]]),
   (0x1F100, 0x1F10A, [[0x0030, 0x002E], [0x0030, 0x002C], [0x0031, 0x002C], [0x0032, 0x002C],
     [0x0033, 0x002C], [0x0034, 0x002C], [0x0035, 0x002C], [0x0036, 0x002C], [0x0037, 0x002C],
     [0x0038, 0x002C], [0x0039, 0x002C]]),
   (0x1F110, 0x1F12E, [[0x0028, 0x0041, 0x0029], [0x0028, 0x0042, 0x0029],
     [0x0028, 0x0043, 0x0029], [0x0028, 0x0044, 0x0029], [0x0028, 0x0045, 0x0029],
     [0x0028, 0x0046, 0x0029], [0x0028, 0x0047, 0x0029], [0x0028, 0x0048, 0x0029],
     [0x0028, 0x0049, 0x0029], [0x0028, 0x004A, 0x0029], [0x0028, 0x004B, 0x0029],
     [0x0028, 0x004C, 0x0029], [0x0028, 0x004D, 0x0029], [0x0028, 0x004E, 0x0029],
     [0x0028, 0x004F, 0x0029], [0x0028, 0x0050, 0x0029], [0x0028, 0x0051, 0x0029],
     [0x0028, 0x0052, 0x0029], [0x0028, 0x0053, 0x0029], [0x0028, 0x0054, 0x0029],
     [0x0028, 0x0055, 0x0029], [0x0028, 0x0056, 0x0029], [0x0028, 0x0057, 0x0029],
     [0x0028, 0x0058, 0x0029], [0x0028, 0x0059, 0x0029], [0x0028, 0x005A, 0x0029],
     [0x3014, 0x0053, 0x3015], [0x0043], [0x0052], [0x0043, 0x0044], [0x0057, 0x005A]]),
   (0x1F130, 0x1F14F, [[0x0041], [0x0042], [0x0043], [0x0044], [0x0045], [0x0046], [0x0047],
     [0x0048], [0x0049], [0x004A], [0x004B], [0x004C], [0x004D], [0x004E], [0x004F], [0x0050],
     [0x0051], [0x0052], [0x0053], [0x0054], [0x0055], [0x0056], [0x0057], [0x0058], [0x0059],
     [0x005A], [0x0048, 0x0056], [0x004D, 0x0056], [0x0053, 0x0044], [0x0053, 0x0053],
     [0x0050, 0x0050, 0x0056], [0x0057, 0x0043]]),
   (0x1F16A, 0x1F16C, [[0x004D, 0x0043], [0x004D, 0x0044], [0x004D, 0x0052]]),
   (0x1F190, 0x1F190, [[0x0044, 0x004A]]),
   (0x1F200, 0x1F202, [[0x307B, 0x304B], [0x30B3, 0x30B3], [0x30B5]]),
   (0x1F210, 0x1F23B, [[0x624B], [0x5B57], [0x53CC], [0x30C6, 0x3099], [0x4E8C], [0x591A],
     [0x89E3], [0x5929], [0x4EA4], [0x6620], [0x7121], [0x6599], [0x524D], [0x5F8C], [0x518D],
     [0x65B0], [0x521D], [0x7D42], [0x751F], [0x8CA9], [0x58F0], [0x5439], [0x6F14], [0x6295],
     [0x6355], [0x4E00], [0x4E09], [0x904A], [0x5DE6], [0x4E2D], [0x53F3], [0x6307], [0x8D70],
     [0x6253], [0x7981], [0x7A7A], [0x5408], [0x6E80], [0x6709], [0x6708], [0x7533], [0x5272],
     [0x55B6], [0x914D]]),
   (0x1F240, 0x1F248, [[0x3014, 0x672C, 0x3015], [0x3014, 0x4E09, 0x3015],
     [0x3014, 0x4E8C, 0x3015], [0x3014, 0x5B89, 0x3015], [0x3014, 0x70B9, 0x3015],
     [0x3014, 0x6253, 0x3015], [0x3014, 0x76D7, 0x3015], [0x3014, 0x52DD, 0x3015],
     [0x3014, 0x6557, 0x3015]]),
   (0x1F250, 0x1F251, [[0x5F97], [0x53EF]]),
   (0x1FBF0, 0x1FBF9, [[0x0030], [0x0031], [0x0032], [0x0033], [0x0034], [0x0035], [0x0036],
     [0x0037], [0x0038], [0x0039]]),
   (0x2F800, 0x2FA1D, [[0x4E3D], [0x4E38], [0x4E41], [0x20122], [0x4F60], [0x4FAE], [0x4FBB],
     [0x5002], [0x507A], [0x5099], [0x50E7], [0x50CF], [0x349E], [0x2063A], [0x514D], [0x5154],
     [0x5164], [0x5177], [0x2051C], [0x34B9], [0x5167], [0x518D], [0x2054B], [0x5197],
     [0x51A4], [0x4ECC], [0x51AC], [0x51B5], [0x291DF], [0x51F5], [0x5203], [0x34DF], [0x523B],
     [0x5246], [0x5272], [0x5277], [0x3515], [0x52C7], [0x52C9], [0x52E4], [0x52FA], [0x5305],
     [0x5306], [0x5317], [0x5349], [0x5351], [0x535A], [0x5373], [0x537D], [0x537F], [0x537F],
     [0x537F], [0x20A2C], [0x7070], [0x53CA], [0x53DF], [0x20B63], [0x53EB], [0x53F1],
     [0x5406], [0x549E], [0x5438], [0x5448], [0x5468], [0x54A2], [0x54F6], [0x5510], [0x5553],
     [0x5563], [0x5584], [0x5584], [0x5599], [0x55AB], [0x55B3], [0x55C2], [0x5716], [0x5606],
     [0x5717], [0x5651], [0x5674], [0x5207], [0x58EE], [0x57CE], [0x57F4], [0x580D], [0x578B],
     [0x5832], [0x5831], [0x58AC], [0x214E4], [0x58F2], [0x58F7], [0x5906], [0x591A], [0x5922],
     [0x5962], [0x216A8], [0x216EA], [0x59EC], [0x5A1B], [0x5A27], [0x59D8], [0x5A66],
     [0x36EE], [0x36FC], [0x5B08], [0x5B3E], [0x5B3E], [0x219C8], [0x5BC3], [0x5BD8], [0x5BE7],
     [0x5BF3], [0x21B18], [0x5BFF], [0x5C06], [0x5F53], [0x5C22], [0x3781], [0x5C60], [0x5C6E],
     [0x5CC0], [0x5C8D], [0x21DE4], [0x5D43], [0x21DE6], [0x5D6E], [0x5D6B], [0x5D7C],
     [0x5DE1], [0x5DE2], [0x382F], [0x5DFD], [0x5E28], [0x5E3D], [0x5E69], [0x3862], [0x22183],
     [0x387C], [0x5EB0], [0x5EB3], [0x5EB6], [0x5ECA], [0x2A392], [0x5EFE], [0x22331],
     [0x22331], [0x8201], [0x5F22], [0x5F22], [0x38C7], [0x232B8], [0x261DA], [0x5F62],
     [0x5F6B], [0x38E3], [0x5F9A], [0x5FCD], [0x5FD7], [0x5FF9], [0x6081], [0x393A], [0x391C],
     [0x6094], [0x226D4], [0x60C7], [0x6148], [0x614C], [0x614E], [0x614C], [0x617A], [0x618E],
     [0x61B2], [0x61A4], [0x61AF], [0x61DE], [0x61F2], [0x61F6], [0x6210], [0x621B], [0x625D],
     [0x62B1], [0x62D4], [0x6350], [0x22B0C], [0x633D], [0x62FC], [0x6368], [0x6383], [0x63E4],
     [0x22BF1], [0x6422], [0x63C5], [0x63A9], [0x3A2E], [0x6469], [0x647E], [0x649D], [0x6477],
     [0x3A6C], [0x654F], [0x656C], [0x2300A], [0x65E3], [0x66F8], [0x6649], [0x3B19], [0x6691],
     [0x3B08], [0x3AE4], [0x5192], [0x5195], [0x6700], [0x669C], [0x80AD], [0x43D9], [0x6717],
     [0x671B], [0x6721], [0x675E], [0x6753], [0x233C3], [0x3B49], [0x67FA], [0x6785], [0x6852],
     [0x6885], [0x2346D], [0x688E], [0x681F], [0x6914], [0x3B9D], [0x6942], [0x69A3], [0x69EA],
     [0x6AA8], [0x236A3], [0x6ADB], [0x3C18], [0x6B21], [0x238A7], [0x6B54], [0x3C4E],
     [0x6B72], [0x6B9F], [0x6BBA], [0x6BBB], [0x23A8D], [0x21D0B], [0x23AFA], [0x6C4E],
     [0x23CBC], [0x6CBF], [0x6CCD], [0x6C67], [0x6D16], [0x6D3E], [0x6D77], [0x6D41], [0x6D69],
     [0x6D78], [0x6D85], [0x23D1E], [0x6D34], [0x6E2F], [0x6E6E], [0x3D33], [0x6ECB], [0x6EC7],
     [0x23ED1], [0x6DF9], [0x6F6E], [0x23F5E], [0x23F8E], [0x6FC6], [0x7039], [0x701E],
     [0x701B], [0x3D96], [0x704A], [0x707D], [0x7077], [0x70AD], [0x20525], [0x7145],
     [0x24263], [0x719C], [0x243AB], [0x7228], [0x7235], [0x7250], [0x24608], [0x7280],
     [0x7295], [0x24735], [0x24814], [0x737A], [0x738B], [0x3EAC], [0x73A5], [0x3EB8],
     [0x3EB8], [0x7447], [0x745C], [0x7471], [0x7485], [0x74CA], [0x3F1B], [0x7524], [0x24C36],
     [0x753E], [0x24C92], [0x7570], [0x2219F], [0x7610], [0x24FA1], [0x24FB8], [0x25044],
     [0x3FFC], [0x4008], [0x76F4], [0x250F3], [0x250F2], [0x25119], [0x25133], [0x771E],
     [0x771F], [0x771F], [0x774A], [0x4039], [0x778B], [0x4046], [0x4096], [0x2541D], [0x784E],
     [0x788C], [0x78CC], [0x40E3], [0x25626], [0x7956], [0x2569A], [0x256C5], [0x798F],
     [0x79EB], [0x412F], [0x7A40], [0x7A4A], [0x7A4F], [0x2597C], [0x25AA7], [0x25AA7],
     [0x7AEE], [0x4202], [0x25BAB], [0x7BC6], [0x7BC9], [0x4227], [0x25C80], [0x7CD2],
     [0x42A0], [0x7CE8], [0x7CE3], [0x7D00], [0x25F86], [0x7D63], [0x4301], [0x7DC7], [0x7E02],
     [0x7E45], [0x4334], [0x26228], [0x26247], [0x4359], [0x262D9], [0x7F7A], [0x2633E],
     [0x7F95], [0x7FFA], [0x8005], [0x264DA], [0x26523], [0x8060], [0x265A8], [0x8070],
     [0x2335F], [0x43D5], [0x80B2], [0x8103], [0x440B], [0x813E], [0x5AB5], [0x267A7],
     [0x267B5], [0x23393], [0x2339C], [0x8201], [0x8204], [0x8F9E], [0x446B], [0x8291],
     [0x828B], [0x829D], [0x52B3], [0x82B1], [0x82B3], [0x82BD], [0x82E6], [0x26B3C], [0x82E5],
     [0x831D], [0x8363], [0x83AD], [0x8323], [0x83BD], [0x83E7], [0x8457], [0x8353], [0x83CA],
     [0x83CC], [0x83DC], [0x26C36], [0x26D6B], [0x26CD5], [0x452B], [0x84F1], [0x84F3],
     [0x8516], [0x273CA], [0x8564], [0x26F2C], [0x455D], [0x4561], [0x26FB1], [0x270D2],
     [0x456B], [0x8650], [0x865C], [0x8667], [0x8669], [0x86A9], [0x8688], [0x870E], [0x86E2],
     [0x8779], [0x8728], [0x876B], [0x8786], [0x45D7], [0x87E1], [0x8801], [0x45F9], [0x8860],
     [0x8863], [0x27667], [0x88D7], [0x88DE], [0x4635], [0x88FA], [0x34BB], [0x278AE],
     [0x27966], [0x46BE], [0x46C7], [0x8AA0], [0x8AED], [0x8B8A], [0x8C55], [0x27CA8],
     [0x8CAB], [0x8CC1], [0x8D1B], [0x8D77], [0x27F2F], [0x20804], [0x8DCB], [0x8DBC],
     [0x8DF0], [0x208DE], [0x8ED4], [0x8F38], [0x285D2], [0x285ED], [0x9094], [0x90F1],
     [0x9111], [0x2872E], [0x911B], [0x9238], [0x92D7], [0x92D8], [0x927C], [0x93F9], [0x9415],
     [0x28BFA], [0x958B], [0x4995], [0x95B7], [0x28D77], [0x49E6], [0x96C3], [0x5DB2],
     [0x9723], [0x29145], [0x2921A], [0x4A6E], [0x4A76], [0x97E0], [0x2940A], [0x4AB2],
     [0x29496], [0x980B], [0x980B], [0x9829], [0x295B6], [0x98E2], [0x4B33], [0x9929],
     [0x99A7], [0x99C2], [0x99FE], [0x4BCE], [0x29B30], [0x9B12], [0x9C40], [0x9CFD], [0x4CCE],
     [0x4CED], [0x9D67], [0x2A0CE], [0x4CF8], [0x2A105], [0x2A20E], [0x2A291], [0x9EBB],
     [0x4D56], [0x9EF9], [0x9EFE], [0x9F05], [0x9F0F], [0x9F16], [0x9F3B], [0x2A600]])]

end PromptRelay.Unicode.Decomposition
