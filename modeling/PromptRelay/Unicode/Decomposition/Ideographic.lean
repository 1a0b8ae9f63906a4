namespace PromptRelay.Unicode.Decomposition

def ideographicBlocks : List (Nat × Nat × List (List Nat)) :=
  [(0xF900, 0xFA0D, [[0x8C48], [0x66F4], [0x8ECA], [0x8CC8], [0x6ED1], [0x4E32], [0x53E5],
     [0x9F9C], [0x9F9C], [0x5951], [0x91D1], [0x5587], [0x5948], [0x61F6], [0x7669], [0x7F85],
     [0x863F], [0x87BA], [0x88F8], [0x908F], [0x6A02], [0x6D1B], [0x70D9], [0x73DE], [0x843D],
     [0x916A], [0x99F1], [0x4E82], [0x5375], [0x6B04], [0x721B], [0x862D], [0x9E1E], [0x5D50],
     [0x6FEB], [0x85CD], [0x8964], [0x62C9], [0x81D8], [0x881F], [0x5ECA], [0x6717], [0x6D6A],
     [0x72FC], [0x90CE], [0x4F86], [0x51B7], [0x52DE], [0x64C4], [0x6AD3], [0x7210], [0x76E7],
     [0x8001], [0x8606], [0x865C], [0x8DEF], [0x9732], [0x9B6F], [0x9DFA], [0x788C], [0x797F],
     [0x7DA0], [0x83C9], [0x9304], [0x9E7F], [0x8AD6], [0x58DF], [0x5F04], [0x7C60], [0x807E],
     [0x7262], [0x78CA], [0x8CC2], [0x96F7], [0x58D8], [0x5C62], [0x6A13], [0x6DDA], [0x6F0F],
     [0x7D2F], [0x7E37], [0x964B], [0x52D2], [0x808B], [0x51DC], [0x51CC], [0x7A1C], [0x7DBE],
     [0x83F1], [0x9675], [0x8B80], [0x62CF], [0x6A02], [0x8AFE], [0x4E39], [0x5BE7], [0x6012],
     [0x7387], [0x7570], [0x5317], [0x78FB], [0x4FBF], [0x5FA9], [0x4E0D], [0x6CCC], [0x6578],
     [0x7D22], [0x53C3], [0x585E], [0x7701], [0x8449], [0x8AAA], [0x6BBA], [0x8FB0], [0x6C88],
     [0x62FE], [0x82E5], [0x63A0], [0x7565], [0x4EAE], [0x5169], [0x51C9], [0x6881], [0x7CE7],
     [0x826F], [0x8AD2], [0x91CF], [0x52F5], [0x5442], [0x5973], [0x5EEC], [0x65C5], [0x6FFE],
     [0x792A], [0x95AD], [0x9A6A], [0x9E97], [0x9ECE], [0x529B], [0x66C6], [0x6B77], [0x8F62],
     [0x5E74], [0x6190], [0x6200], [0x649A], [0x6F23], [0x7149], [0x7489], [0x79CA], [0x7DF4],
     [0x806F], [0x8F26], [0x84EE], [0x9023], [0x934A], [0x5217], [0x52A3], [0x54BD], [0x70C8],
     [0x88C2], [0x8AAA], [0x5EC9], [0x5FF5], [0x637B], [0x6BAE], [0x7C3E], [0x7375], [0x4EE4],
     [0x56F9], [0x5BE7], [0x5DBA], [0x601C], [0x73B2], [0x7469], [0x7F9A], [0x8046], [0x9234],
     [0x96F6], [0x9748], [0x9818], [0x4F8B], [0x79AE], [0x91B4], [0x96B8], [0x60E1], [0x4E86],
     [0x50DA], [0x5BEE], [0x5C3F], [0x6599], [0x6A02], [0x71CE], [0x7642], [0x84FC], [0x907C],
     [0x9F8D], [0x6688], [0x962E], [0x5289], [0x677B], [0x67F3], [0x6D41], [0x6E9C], [0x7409],
     [0x7559], [0x786B], [0x7D10], [0x985E], [0x516D], [0x622E], [0x9678], [0x502B], [0x5D19],
     [0x6DEA], [0x8F2A], [0x5F8B], [0x6144], [0x6817], [0x7387], [0x9686], [0x5229], [0x540F],
     [0x5C65], [0x6613], [0x674E], [0x68A8], [0x6CE5], [0x7406], [0x75E2], [0x7F79], [0x88CF],
     [0x88E1], [0x91CC], [0x96E2], [0x533F], [0x6EBA], [0x541D], [0x71D0], [0x7498], [0x85FA],
     [0x96A3], [0x9C57], [0x9E9F], [0x6797], [0x6DCB], [0x81E8], [0x7ACB], [0x7B20], [0x7C92],
     [0x72C0], [0x7099], [0x8B58], [0x4EC0], [0x8336], [0x523A], [0x5207], [0x5EA6], [0x62D3],
     [0x7CD6], [0x5B85], [0x6D1E], [0x66B4], [0x8F3B], [0x884C], [0x964D], [0x898B], [0x5ED3],
     [0x5140], [0x55C0]]),
   (0xFA10, 0xFA10, [[0x585A]]),
   (0xFA12, 0xFA12, [[0x6674]]),
   (0xFA15, 0xFA1E, [[0x51DE], [0x732A], [0x76CA], [0x793C], [0x795E], [0x7965], [0x798F],
     [0x9756], [0x7CBE], [0x7FBD]]),
   (0xFA20, 0xFA20, [[0x8612]]),
   (0xFA22, 0xFA22, [[0x8AF8]]),
   (0xFA25, 0xFA26, [[0x9038], [0x90FD]]),
   (0xFA2A, 0xFA6D, [[0x98EF], [0x98FC], [0x9928], [0x9DB4], [0x90DE], [0x96B7], [0x4FAE],
     [0x50E7], [0x514D], [0x52C9], [0x52E4], [0x5351], [0x559D], [0x5606], [0x5668], [0x5840],
     [0x58A8], [0x5C64], [0x5C6E], [0x6094], [0x6168], [0x618E], [0x61F2], [0x654F], [0x65E2],
     [0x6691], [0x6885], [0x6D77], [0x6E1A], [0x6F22], [0x716E], [0x722B], [0x7422], [0x7891],
     [0x793E], [0x7949], [0x7948], [0x7950], [0x7956], [0x795D], [0x798D], [0x798E], [0x7A40],
     [0x7A81], [0x7BC0], [0x7DF4], [0x7E09], [0x7E41], [0x7F72], [0x8005], [0x81ED], [0x8279],
     [0x8279], [0x8457], [0x8910], [0x8996], [0x8B01], [0x8B39], [0x8CD3], [0x8D08], [0x8FB6],
     [0x9038], [0x96E3], [0x97FF], [0x983B], [0x6075], [0x242EE], [0x8218]]),
   (0xFA70, 0xFAD9, [[0x4E26], [0x51B5], [0x5168], [0x4F80], [0x5145], [0x5180], [0x52C7],
     [0x52FA], [0x559D], [0x5555], [0x5599], [0x55E2], [0x585A], [0x58B3], [0x5944], [0x5954],
     [0x5A62], [0x5B28], [0x5ED2], [0x5ED9], [0x5F69], [0x5FAD], [0x60D8], [0x614E], [0x6108],
     [0x618E], [0x6160], [0x61F2], [0x6234], [0x63C4], [0x641C], [0x6452], [0x6556], [0x6674],
     [0x6717], [0x671B], [0x6756], [0x6B79], [0x6BBA], [0x6D41], [0x6EDB], [0x6ECB], [0x6F22],
     [0x701E], [0x716E], [0x77A7], [0x7235], [0x72AF], [0x732A], [0x7471], [0x7506], [0x753B],
     [0x761D], [0x761F], [0x76CA], [0x76DB], [0x76F4], [0x774A], [0x7740], [0x78CC], [0x7AB1],
     [0x7BC0], [0x7C7B], [0x7D5B], [0x7DF4], [0x7F3E], [0x8005], [0x8352], [0x83EF], [0x8779],
     [0x8941], [0x8986], [0x8996], [0x8ABF], [0x8AF8], [0x8ACB], [0x8B01], [0x8AFE], [0x8AED],
     [0x8B39], [0x8B8A], [0x8D08], [0x8F38], [0x9072], [0x9199], [0x9276], [0x967C], [0x96E3],
     [0x9756], [0x97DB], [0x97FF], [0x980B], [0x983B], [0x9B12], [0x9F9C], [0x2284A],
     [0x22844], [0x233D5], [0x3B9D], [0x4018], [0x4039], [0x25249], [0x25CD0], [0x27ED3],
     [0x9F43], [0x9F8E]])]

end PromptRelay.Unicode.Decomposition
