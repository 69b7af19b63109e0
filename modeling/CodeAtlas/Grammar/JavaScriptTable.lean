import CodeAtlas.Parsing.Table

/-!
# The table for plain scripts

- `JavaScript.table`: what the parser does in each state.
-/

namespace CodeAtlas

namespace JavaScript

/-- The row of actions of each state. -/
def actionRow : Packed := ⟨1777, 11, 32, #[
  0x9f13e27c4f89f13e27bd08a0f41a82d04a0740a80d009ff3fa7ecfd9f93ee7d4f9a1f43a86d0ca1742a84801,
  0x600962cf698d3065d4e19ef3de7bcf79ef3de7bcf79ef3de7bcf79ef3de7bcf89f13e27c4f89f13e27c4f8,
  0x9d533e754f39a93ca75cf39a72f25e4bb9773c6784ef9dd3b6764ec0be1042e85b0b215c1b85400c13c02804,
  0x97335a6b4b997b2de6fcde9bb3726dcda9b33626acd79af35e6bcb89c933a674e99c739e734d29c534672cd0,
  0x97f35a5fcd697f30e62cc598b31662cc5985382704e09c1382704d69ad35a6b4d69ad35a6b4b99732e65ccd6,
  0x96f2de5bcb796f2de5bcc496f2de624b799b3a24fcb796f2de63cb79993d67acf59eb3d67acbe9ad2fe5fcbf,
  0x9ad35a6b4d69ad35a6b4d69ad35a6b4d69ad35a5bcd69ad35a5bcb79ad2de5bcb79ad2de5bcb796f2de5bcb7,
  0x989312624c4989312624c4989312624c4989312624c4989312624c094135a6b4d69ad3d26b4d69ad35a6b4d6,
  0x9e9302604c4993302604c09ad302604c0981302604c0981302604c0981312604c0981302604c8943312624c4,
  0x91d2464f49692b2524ecc4997312654f49e93d27a4f49e93d27a4f49e93d27a4f49e93d27a4f49e93d27a4f4,
  0x24154298527de044133ed7d5006003f37ecfd5fc3f27ee040073f17d6fd1f705101e141f4be892124e47c92,
  0x3e0780e01d03806c0d01903005c0b015028f35f83f901802c3000a01202003bec0261782005c0b41602b036,
  0x700e0158350680cc190310600bc1702d05a0b41582b0560ac1602b0560701502905009c1282404608810820,
  0x808f31ff3fd7f8fedf2bfa807009ffbce0921202404808e1182304608a1102184207e0f81f03d0780ec1d039,
  0xd0455e896d7acf3cb500d29a1382684d09a1342604b09453de9bd429cf9c3cc0680a19c330650c818c31061,
  0x2e4f5cc81702b03c0761917c85bdea96c228564ad3e17c0f40b591614c3c5ecbd21daf603706d0d81ac35069,
  0x5941ed641772ecb1c919222424808d16723ef7c8f3de324475ee91c7b846ded9697c45a1f19937cc5ccbabda,
  0x11021c4308510820c4117b1022003f07f0fc1f43e17a0f41dc3b0750e81cc390710e01bcbc8781425e164acb,
  0x1442804f89e13a2704d89a1322604b89712c2544a09312624c498921222404388b11e2384688c116228be089,
  0x2fe5f974ae85ceb99732e55c6b916ead75a6b516d2d95b0b556e2db5a6b5971ae25c2b816fade2985f5668a3,
  0x64e2cc59326162c94580ae15e2b8568ac6485b85511314e294c0aea1b6b18548df59eb44540dd5a02ad67180,
  0x1802fc5b329174ca85f0bd178c8d8eb19634c818fb1e636c8990b19176c71948ba6502e4c10b816e2d85a8b4,
  0x1a033c6718630a610669831de3ad978cc196328648c818ecb9968c6658315960c5188cac618c2184308610c1,
  0x690d19a3b3c66ccc999b39670cdd9a33b674cc99ab4668ad11a1b4231c634c618b1a8628698d21a2624c4187,
  0x624cc1862f15dac198830f5e8d51a9b526a2bb1a834f32ad38c7aeb2e2cfd9f21567ad34abb4c696d29a4b49,
  0x6b0d91b1b626c2d818aaf3628c3588aff33065ccb1745fcbf57e2fb5f4be57c3085eebd97ab16626c1d98af2,
  0x6812a585b0a612dad82b04606c0980b0e600da9b4b686ced9db33646cad7dacb556acd71adb5a6aed79aeb55,
  0x70ae11c13836fadddb9b746f4de5bc3756f8dedb9b76704e05c037f6fc652574ad9592ae551995e0bbda0aee,
  0x9652d24ccb696329a5849894edb203ca86e449db89266e04958c36f248e298bb6e6da465c4966710e1dc3385,
  0x8a72be1cca287b15a2ac518a128e21c428831021fca587d13e2744d89912e2544989111e2344588925e59cb5,
  0x33a674ce99d33a674ce19c338670ce19c33866ccd9293346be0fc1e83b0720d43c8366ba2dc5a87515e52454,
  0x8a46a22fc3b34c680d29a434717a2e9a234322a2e49b8b102cd399f33c678cf19e33c678ce99d33a674ce99d,
  0x84d096124238450861048c8332722c9ad3586ae0c41782d0560a4138250460840f81c6aa06c0c91702a4d1a9,
  0x8c51a631c618d1182469b48710de1b4358690ce194318606ccd91b185f0ba16c2c8570aa14c098106c214427,
  0x8f51da42c818fb1e63ab8b913226424808f91e23a39972b1ce394718e11be374888db1b23346b8cf19235465,
  0x3e88a4f9a2872ce406c9bd3783606baba1ac7c9c738d718355c638c730e49cbb9190f20e3fc7b8ef21a4147e,
  0x25439c730e51c838c710e1370e8cdb9b7372381d138f742e7c6f3947406d8dab9e1b8369c9b9b7347dcfb1f5,
  0x39a730e59d73f0708e09c1382704e01ca37e930fd1c93e2911d427937c3a074a4b3766e9e0a43748e71ce92b,
  0x4903a923ba5756ea9231fb752a09229d63aa754ea9d53a874ce91d139071ce39c738e718e29c4386740e79ce,
  0x774ec52b1ee4947a8f4a542a0925e01ed3d8909db3ad4b4efd369eb3d079ddf1db5a4769dabac788e9dd30ee,
  0x76690921242484eddd725b598eedd90f61ea3d0798f2794f1de4bc6790f14fe9fc4943fcf81f94923e9211ef,
  0x4f04c12e2604c09713723342c8a897a2a42c83ceea0540880d012014007fde1bc23fcee5d83bd768ee1d7bbc,
  0x1fc9c5109334e03f555a644c84c92ca5d4c295d2aa3e4de4c47c0fc4708f50ea1f4588610ba2b4788d47dbcb,
  0x4628c1182675589993325f4c68bd0da1a45ca052f2624c49791a21945a8b50c9014e489d119004ca9b135934,
  0x48241c831052084f896a403b877cee2752064091f92c2584b09613826e4d89a8f74e89cd5726955a9a134232,
  0x5549352692e49a4b92090940c9611f93b27e4b88424e25c8fc9d13943c8709727d4f84b93da7a4ee9d92692e,
  0x44490526a4d49a4b885a534d45012912e25c9448527e47e4b89712e25c4b89722025c8fd2812e25c93d20aaf,
  0x4a4948971d91f289912a3f47e8fc9712e25c4b91f92e25c4b89723f25c4b89723f25c8fc9e24f4a094097224,
  0x47e8fd1f90e47e948ec10d47e8fd1f92e25c4b91fa3f47e8fc9712e25c8fd1fa3f47e8fd2824d21843128941,
  0x4a694d29a534a694d20a4d49a94926a414a694d28ab15609352925248294d4027f4a49448891021e8fd1fa3f,
  0x25a4b09612c56aad159ab24a694d29a534a694d26a534a694d29a534a694d29a534a694d29a4d48293526a53,
  0x25c4b89712e25c4b89712e25c4b89712e25c4b89712e25c4b89712e25c4b89712e25c4b89712e25c4b89712e,
  0x416aed53a8a3c08dd0514525082504236546461509442864f55028d3bca2d4491751081ca111250e8414192e,
  0x28c29108a9852ea594aa94526a48f329157aa4147a8e552795612bc550791071e33c4834f0ab6474b0506239,
  0x50ca154fa9e53aa71422b954ca6d5c2a52aa550a9952534544a5a12588add1dac35485295114929051d4ca8c,
  0x165580590b19622c25810a2bf57c57caf15d2b856cab213]⟩

/-- The row of nonterminals of each state. -/
def gotoRow : Packed := ⟨1777, 10, 35, #[
  0x28aa2688a1e86a1684a0e82a029fa9ea6a7ea5a7ea4a7ea3a7e9fa7ea2a7ea1a7ea0a7eabaaeaaaa6a9aa001,
  0x100401004010040100401865e698e3a65e9ea769ca6e9aa6698a5e96a5694a4e92a4681a428fa3a8da328b,
  0x1de759d5752146da1474e137821277e3785de47763685a6197e60979e378de378de3789e1004010040100401,
  0x1c871dc6715c470dc29765c96e5a70659701bf9623895dbe6f5bc6edba6e5b86de0c76dda765d8959d785215,
  0x23c8363b82a358d2338ca318c23974a7f9fa7d9f1d19edd09ea0881e068160480e02825cf739cd731cb729c9,
  0x2556719b66a5494d9994a519419893e4e9364c92e4a9264891e469164490e427a241901e78fe0b7718b8fa3d,
  0x1ef7b9ed7b1eb7a9e979664631b46cdb26c61a6c1af6b9ad6b1ab6a9a96a1a7699a5691a3689a16819f6799d,
  0x1b59d2739ca719c26f9ba6d9b26b9aa697fa6899e66996628398c7f5fc7edfa7e5f87ddf67d5f47cdf27c5f0,
  0x11f62a01846008422f8ba2d8b22b8aa298a22789a258922388a218821f87a1d8721b862799e1ff83e779da75,
  0x101c0300406008020140500d6358c0400c040040100c0258803004013f00200921485214851e4798a48120,
  0x10040100401004010040100401004010056400c04004010040100401004020040100401004010040100401,
  0x10040100401004010040100401004010040100401004010040100401004010040100401004010040100401,
  0x100401004010040108564010040100459c0402008011640040100401004010040100401004010040100401,
  0x10040100401004010040100401004010040100401004010040100401004010040100401004014900108822,
  0x10040100401004010040100401004010040100401004010040100401004010040100401004010040100401,
  0x10040100401004010040100401004010040b02c0b024090040a02801004010040100401004010040100401,
  0x10040100401004010040100401004010040100401004010040100401004010040100401004010040100401,
  0xb02c0b02c0b02c0b02c0b02c0b02c0b02c0b02c0b02c010340d00401004010040100401004010040100401,
  0x100401004010380100401004010040b00401004010380e004010380c030010040102c0b02c0b02c0b02c0b,
  0x103801004010380e0380e0380e0380e0380e038010380e0040e0040100401004010040e004010380103801,
  0x1004010040100401004010380100401004010040e0380103801038010040e004010040100401004010040e,
  0xe0380e0380e0380e0380e0380e0380e0380e0380e0380e0380e03801004010040100401004010040100401,
  0x1004010038100400e0481002c100441104001004010380b0380e0040e0040b0040f03c0103c0e0040e0380e,
  0xb02c0b02c0b02c0b02c0b02c0b02c0b02c1004010050130400100401004100401004010040100401004010,
  0x1649926499264c0102c0b0380b03992040100400b0401004010040150400b02c0b02c0b02c0b02c0b02c0b,
  0xb02c0102c0b02c0b0040b0040b02c0b02c0b02c0b02c0b02c0b02c0b02c0b02c0b02c0b02c0b02c0b02c0b,
  0x169485214852148521485214851e4792148594639906398f6598e63987635956200b0399102c0102c0102c01,
  0x100401004013f52f4b92d4b129489260592b4a92948d284892249d264952248d234892249521485214851e,
  0x1344cc01005324c5894c13000401004010040100401004010040100401004010040100401004010040100401,
  0x14551129625260040100543509415013f4f93d4f13b4e939005384dd364c18900522005354a4010040100401,
  0x17d5ad815a8015655855d565554555129498010040154d525455053d3953930488015354c52d4a5254851d46,
  0x1785e9785e1785e1795e186615785e1785e1775715a5d9755d1735c9715f1705bd805b9845fd6d60d7e5b182,
  0x220882208819084195755b0041805c01004010042259d6859801591655755b5755b5e1785e1785ed785e178,
  0xfd41d063fd05004010040100401004010050457d0337001005614916057c01408ff4040157801005003fcfe,
  0x1004010040100401004010040100401078010040100401004010050b0741c0050a4241b00401005080601a,
  0x2809cfd0980e0942408cfd445100050a0050743d0e4350a0810c07d07004010040100401004010040100401,
  0x360dc360d4340cc01460300040145c014582f0b42c0c831454300c114005133f42f0b9120b42c0acfd0a829,
  0x40474010043f0b8250b8fd3f4250b42c0f83d0b42c0f03b4711b469190b42c0e80b0e438004010040100437,
  0x470c8010044e1344c0040112c011144411045114440044a004490044811c321182b0a8011144410c4210401,
  0x321104511444004470c8560e80111444154540040114851004321340114c011480110c51004010c85013c47,
  0x118c6218401180010040117c5e1745c16c4f1204f1200101c5a00432004321644411044160320043215c47,
  0x731c8711c06f004010046e1b4011b0011ac6a1a40100401004680040119c010040100466194640040100401,
  0x10048c22c8a224880048700401218852108300401208812007f1f87d1f0011ec7a1e4781dc761d40100474,
  0x1004a7004a6294a4004010040128ca2284a027c9e2749c26c9a2649825c962549424c92244012408f2388d,
  0xc400401004c3308c1300bf2f8012f4bc004012ecba2e4b82dcb62d4b42ccb22c4b02bcae2b4ac2acaa2a4a8,
  0xae2b4ac2acaa350d3348d128ca22849c25c93244d033cce334cc32c821e8ca00401324c831cc61a401004c5,
  0xe7398e5390e3388e1380df378dd36cda364d835cd6004010040130cc2304c02fcbe354bb2e8b92d4b42ccb2,
  0x1004010040100401004010040100401004013ecfa3e4f83dcf63d4f43ccf23c4f03bcee3b4ec3acea3a4e8,
  0x10040100401004010040100401004010040100401004010040100401004010040100401004010040100401,
  0x10040100401004010040100401004010040100401004010040100401004010040100401004010040100401,
  0x100401004010040100401004010040100401004010040100401004010040100401]⟩

/-- The tokens that are looked for in each state. -/
def lexMode : Packed := ⟨1777, 4, 88, #[
  0x1111111111113333333333333333333311111111111111111111111111111111111111111111111112222210,
  0x1111411111141111111114111111411111111111111111111111411111111111111111111111111111111111,
  0x1111511111111111111111111111511111111111111111111111111111111111111111111111111111111151,
  0x1111511555555555511555511155555555555551111111111111111111111111111111111111111111111111,
  0x5555111111111111111111111111111111111111111111111111111111111111111115551111111511111111,
  0x5555555555555555555555555555555555555555555555555555555151111111155555555555555555555555,
  0x3333333333333333333333333333333333333363333333333333333333333333333333333333335555555555,
  0x3333333333333333333333333363333333333333333333333333333333333333333333333333333333333333,
  0x3333333333333333333333333333333333333333333333363333333333333333333333333333333333333333,
  0x3333332222263333323333333333333333333333333333333333333333333333333333333333333333333333,
  0x1711111112121111121111111111111111111122221222212332333333333333333333333333333333333333,
  0x1111111111122211111111111211111212112222211221111122222222222222222222222222222722111111,
  0x1118111111111111888888888888888811888881188888878878778778778735111111111555111111111511,
  0x8888777777777888888117777778711111817111111189911111111111118811111191811119911111111111,
  0x1babababa1111ba13ba11111dcdcdc1911111111ba111111111111ba1111111131ba18811118881181188888,
  0x1111411111111111113111111111111111111141111111111111111111111111111111131111111111111111,
  0x1111111111111111111111141111111181111111111111111111111111111111111111111111111111414111,
  0x1111111111111111111111111111111111111111111111111111111111111111111111111111111111111111,
  0x111111e111111111111111111111111111111111111141411111111111111111111111111111111111111114,
  0xee1111e1f11f111111111111f111111111111111111111111111111111111111111111111111f11111111111,
  0x11111111111111111]⟩

/-- The context tokens that are looked for in each state. -/
def contextMode : Packed := ⟨1777, 4, 88, #[
  0x2222222222224444444444444443344322222222222222222222222222222222222222222222222222222221,
  0x2222222222222222222222222222222222222222222222222222222222222222222522222222222222222222,
  0x2222422222222222222222222222422222222222222222222222222222222222222222222222222222222242,
  0x2552422334444434322434455233444444444442222222222222222222222222222222222222222222222222,
  0x3334222222222222222222222222222222222222222222222222222222222222222224435555555325555555,
  0x3333333333333333333343333333444444444334334444444443344232222222233333344333333344333333,
  0x3333344333333333333333333333333333333333333333333333333333333333333344333334333333333333,
  0x4444444444444444444444444444444444444444444443444443444444444443333333333333333333333333,
  0x3333434444333444444444444444444444444444444433344444444444444444334444444444444444444444,
  0x3333332222233343423333333333333333333333333333333333333333333333333333333333334334333333,
  0x5255525222522222222222252222222222222222222222222332333333333333333333333333333333333333,
  0x2222222222222222222222222222222222222222222222222255222222222222222222222222222222555552,
  0x5222222222222222222222222222222222222222222222262262662662662622222222222222222222222222,
  0x2222666666666222222526666662622522226222552227722555555552552222225275225527722222222225,
  0x2888888882222882288522252222222725222525882225522225228822225525228822222222222222222222,
  0x2222222222222222222222255225222252222522222222222225222222222252222222222222222255222222,
  0x2222225522222222222222222222222522222252222222255225222225555222222255222222222222222222,
  0x2222222222555222222522252222222222222222222255222222522222222222222222222222222222222252,
  0x2222229222222222222222222222222222222222222222222222222222222222222222222222222222222222,
  0x9922229222222222222222222222222222222222222222222222222222222222222222222222222222222222,
  0x22222222222222222]⟩

/-- The base of each row of actions. -/
def actionBase : Packed := ⟨1296, 11, 32, #[
  0x1a0340680d01a0340680d01a0340680d01a0340680d01c0340480a00c010038030040080200200400000000,
  0x1a0340680d01a0340680d06c0d40680d01a0340680d01a0340680d01a0340680d01a0940680d01a0340680d,
  0xbc01c2e0070b401c2c0070ac01c0385300e034038260040340680d01a0340680d01a0340680d01a0342003f,
  0xde1bc3786f0f41bc3c0770de1bc3786f0de1bc3786f0001a0340680d01a0340000c2184308610c218400007,
  0xde1bc3786f0de1bc3786f0de1bc3786f0de1bc3786f0de1bc3786f0de1bc3786f0de1bc3786f0de1bc3786f,
  0x14e29c538a714e29c538a714e29c538a714e29c538a714e29c538a715429c538a714a294520780de1bc5006f,
  0x1bc2906e0a41b4290520a4148290520a714e29c538a714e29c538a714e29c538a714e29c538a714e29c538a7,
  0x1fc3e47c8f91f23e46d8f7148290520a4148290780ef1dc290760eb1d43a0740a4148290520a4148290520a4,
  0x23646c8d91b2344648c0a41484548a113224290600bf1643e46f8f91f23e47c8f91f23e47c8f91f23e47c8f9,
  0x27a4f49c9282504a09412e25c4b89712e25c4b89712e25c4a0941282504a0940f22324648c9192344688d11a,
  0x1484f49e93d27a564ac1572ac2905213d27a4f49e94b29c534a614b1482909e93d27a4f45213d2744f49e93d,
  0x148290559281ea3d0799771b41ec3c9722e45b4b796f29c5b0b60ec2d4454b41672cc594520a427a4f49e93d,
  0x1f2668cd19a334000941792f65e89e192324640c818f1f0290520a41f21782005c0b41602b0360a63e4278a4,
  0x37c000dd9bb1483e4001b636c4b8521b03606c0d80003506a4d41a83506a0d40001f2680d01a0340684d019f,
  0x3bc770ee1db1f24b8ec1d71f8728e51ca394728e51ca394728e51ca394000dd1be37c6f8df1be37c6f8df1be,
  0x25c4b8520003f47e4f89f03e47c8f91f23e47c4f81281f24b87c92e25c79cf39e71f2770ee1dc3b8770ee1dc,
  0x43c8590e21642c8590b21642c7e907a104208410820f25081502a0540a81502a0540a814000f91f24a09712e,
  0x47c4a10b21646c8d91b23746c8d50b2332508a91522a4548a91522a4547e10b21644c8590b21644485910216,
  0x4b896d2e25a4b495d2c2571489540023f47e8fd1fa3f47e8fd1fa4a49490921242484909212424849051fa3f,
  0x40a3e47c8f940a3e53c27740a815028522506f10b2164c89b535a6a4d4991322644c8991322604c098130258,
  0x51aa3546a8d51aa3546a8d51aa3546a8d51aa3546a8d51aa340028b000a2400000000a0d41a83000a0540205,
  0x576aed5dabb000aa9572ad558aa9572aa55aaa9562aa556aad55aab554a9d53aa7000a8d51aa3000a8400000,
  0x5bcb756e2db5b4b656c2d75acb556a2d3594b35682cf59ab34beac7594b2563ac72ecb1428ac1582b04002bb,
  0x5e8bd17a2f45e8bd17a2f45e8bd17a2f15e2bc5772ee5dcb796f2eb5bcb796f2de5bcb796f2de5bcb796f2de,
  0x63cc758e31b634c65683175bcbc589312624bc587b0f618c31862f460cc198330660cbc57a2f45e8bd17a2f4,
  0x67acf59833b674ce59c33766ccd59a333664cc198324648c9192324648c9192324648c9192323644c859031f,
  0x6bcd75ae35b6b4d65ac3576acd55650a4148291a134f69cc95a1342684d09a1342684d09a1342684cf1a0324,
  0x6fcdf5be37b6f4de5bc3776ecdd5ba3736d8db1b636c6d8db1b63606c0d81b03606c0d81b03606c0d81b035f,
  0x73c8d9cd39b7347f1cb39672ce41c8390720e41c8205718e31c6205394df9bf37e6fcdf9bf37e6fcdf9bf37e,
  0x77c001dabb576aed5db3b676ced4003ac758eb1d63ad75aeb5d600040a81502a05748e91d220546ce85029fc,
  0x7b6f6dedbdb7b0f65ec3d57acf55ea3d37a4f45e63cf79af35e638c000f21e400078af14003c377cef9e03be,
  0x7f0fe9fd3fa7f4fddfc3f77b0fd1fa3cd7dcfc5f7bef7dcf3df43eb7d4fa1f43d47ccf65f23d47c4f85f03db,
  0x83506a0d41a8350660540a81502a0540a81502a0540a81502a0540a815026043906d901202115804f8e003e0,
  0x87d0f61e40887506a0dc088110220440881102204408811022044088110220440a81502a0540a81502a0540a,
  0x81502a0540a83506a1cc0a87915629c5387911622c4488b11222c4488b11222c4488b1122243e87d0fa1f43e,
  0x8f91f23e4748f11e23c4748d71aa34c688d71ae3546a8d31a6344688d11a2342ab8cd186324618c5186301be,
  0x93b2764d49a934efa4c4978112524a4919232464748e91cfd11a4088110291f9be9092124247490120240474,
  0x9732f65bcbb96f2de5bcb777c692584b09632c6584af9492a654ca99532a6544a694d28a523cb9450224fc9f,
  0x9ad35a6b4d69ad35a6b4d69ad30a624d399d33a674ce99d336624c3989312624c498930e624c39852f6604bf,
  0x9f13e27c4f89f13e27c4f79793d27a4cc9af3a6764ec9d93b2764eb9d33a6744d69cb3966b4e39ad35a6b4d6,
  0x1b4368550aa153e27c4f89f13e27c4f89f13e27c4f8]⟩

/-- Where the overrides of each row of actions begin. -/
def actionFirst : Packed := ⟨1297, 12, 29, #[
  0x1d01c01b01a01901801701601501401301201101000f00e00d00c00b00a009008007006005004002000000,
  0x3a03903803703603503403303203103002f02e02d02c02b02a02902802702602502402302202102001f01e,
  0x5d05b05a05805605405205004f04e04d04c04b04a04904804704604504404304204104003f03e03d03c03b,
  0x8308208108007e07d07c07b07a07907807607507407307207107006e06c06b06906806606506306206005f,
  0xa009f09e09d09c09b09a09909809709609509409309209109008f08e08d08c08b08a089088087086085084,
  0xbd0bc0bb0ba0b90b80b70b60b50b40b30b20b10b00af0ae0ad0ac0ab0aa0a90a80a70a60a50a40a30a20a1,
  0xda0d90d80d70d60d50d40d30d20d10d00cf0ce0cd0cc0cb0ca0c90c80c70c60c50c40c30c20c10c00bf0be,
  0xf70f60f50f40f30f20f10f00ef0ee0ed0ec0eb0ea0e90e80e70e60e50e40e30e20e10e00df0de0dd0dc0db,
  0x11411311211111010f10e10d10c10b10a1091081071061051041031021011000ff0fe0fd0fc0fb0fa0f90f8,
  0x13113012f12e12d12c12b12a12912812712612512412312212112011f11e11d11c11b11a119118117116115,
  0x14e14d14c14b14a14914814714614514414314214114013f13e13d13c13b13a139138137136135134133132,
  0x16b16a16916816716616516416316216116015f15e15d15c15b15a15915815715615515415315215115014f,
  0x18f18d18b18918818718518418318118017f17d17c17a17917817717617517417317217117016f16e16d16c,
  0x1c41c31c21c01bf1be1bc1ba1b81b61b41b21b01ae1ac1aa1a81a61a41a21a019e19c19a198196194192190,
  0x1ed1ec1ea1e81e61e51e41e31e21e11df1dd1dc1db1da1d91d81d71d61d41d31d21d11d01ce1cc1ca1c81c6,
  0x21421321221121020e20c20b20a2092082072062052042032022001fe1fc1fa1f81f61f51f41f21f01ef1ee,
  0x23623423323223122f22e22d22c22b22a22922822722622522422222021f21e21c21b21a219218217216215,
  0x26726626526426226025e25c25a25825625425225024f24d24b24924824724624524424224023e23c23a238,
  0x28728628528428328228128027f27e27d27c27b27a27927827627427327227127026f26d26c26b26a269268,
  0x2ac2ab2aa2a92a82a62a42a22a12a029f29e29d29c29a29929729629529429329229129028f28d28b289288,
  0x2cd2cc2cb2ca2c92c82c62c52c42c22c12bf2bd2bc2bb2ba2b92b82b72b62b52b42b32b22b12b02af2ae2ad,
  0x2f92f72f52f32f22f12ef2ed2eb2e92e72e52e32e12df2de2dc2db2da2d92d82d72d62d52d42d22d12d02cf,
  0x32031f31e31d31c31b31a31931831731631531431231130f30e30c30a3083073063053033023012ff2fd2fb,
  0x34234134033f33e33d33c33b33a33933833733633433333233032f32e32d32b32a328326325324323322321,
  0x37136e36c36b36936736636336136035e35c35b35835635335235135034e34d34c34b34a349347345344343,
  0x39439339239038e38d38b38938838738638538438338238138037f37e37b37a379378377376375374373372,
  0x3b53b43b23b13b03af3ae3ad3ab3aa3a93a83a73a63a53a43a33a23a13a039f39e39d39c39b39a398397396,
  0x3da3d93d83d73d63d53d43d13d03cf3ce3cd3cc3cb3ca3c93c83c73c43c33c13bf3be3bd3bc3ba3b93b83b6,
  0x3fe3fd3fc3fb3fa3f93f63f43f23f13f03ee3ed3ec3eb3ea3e93e83e73e63e53e43e23e13df3de3dd3dc3db,
  0x42b42a42942842742442342242142041f41e41d41c41b41a41741441140e40b4094074044034024014003ff,
  0x44b44a44944844544444344244144043f43e43d43c43b43943843743643543443343243143042f42e42d42c,
  0x47947647447347146e46c46b46a46846646546446346245f45e45d45c45945645345245145044f44e44d44c,
  0x4b54b34b14b04af4ae4ac4a94a74a54a34a14a049f49e49c49949649349048d48b48948748448148047d47a,
  0x4ed4ea4e84e64e44e34e04df4dd4dc4da4d94d74d34d04ce4cc4c94c74c54c24c14c04bf4be4bd4bc4b94b7,
  0x52852752352152051e51d51c51851551351150f50e50a5075045014fe4fd4fb4fa4f74f64f54f44f34f14ef,
  0x55c55b55a55955855755655555455355254e54a54954854454353f53e53a53753653553453353152f52d529,
  0x57957857757657557457357257157056f56e56d56c56b56a56956856756656556456356256156055f55e55d,
  0x59c59b59a59959859759659559459259159058f58e58d58b58958758658458258158057f57e57d57c57b57a,
  0x5d65d55d15d05cf5ce5cd5cc5cb5ca5c65c25be5ba5b65b25ae5ac5aa5a85a75a55a45a25a15a059f59e59d,
  0x5f75f65f55f35f25f15f05ee5ed5ec5eb5e95e85e75e65e45e35e25e15e05df5de5dd5dc5db5da5d95d85d7,
  0x65565364b64a64964564363b63a63963363162e62862762662162061f61c61b61a61460f60a6056005fc5f8,
  0x7017006f46ef6e36e06da6d86d76d66bf6b36b16af6ae6ad6ab6a369a69569068b68668167b67266c66365d,
  0x76476376276176075f75e75d75274974874674574474374273d73773272e72a72672271e71c71b71a714703,
  0x7c97c87c77bb7a77a57a479979078878778678578478378177f77e77977377277176e76d76b769767766765,
  0x8207f67f07e97e87e77d97d77d67d57d47d37d27d17d07cf7ce7cd7cc7cb7ca]⟩

/-- The set of tokens that an override concerns. -/
def actionColumns : Packed := ⟨2080, 8, 44, #[
  0xa0a0a0a0b0a0a0a0a0a0a0a0a0a0a0a0a0a0a0a0a0a0a090908070307060304040504040203020201020100,
  0x111003070f0a030e0d0d0d0d0d0a0a0a0a0a0a0a0a0c030a0a0a0a0a0a0a0a0c030a0a0a0a0a0a0a0a0a0a0a,
  0x16161616011615151515151501151414141414140114030a0c030a0c030a0c030a0c030a0c030a13120c030a,
  0x1616161616161616161616161616161616161616161616161616161616161616161616161916181716161616,
  0x1a1a1a1a1a1a1a1a1a1a1a1a1a1a1a1a1a1a1a1a1a1a1a1a1a1a1a1a1a1a1a1a191a1b1b17181a1616160316,
  0x262425252524221821232218211717201d1d1d1f1d1d1f1e1a1d1a1d1a1d1c1c1c1c1c1a1a1a1a1a1a1a1a1a,
  0x171717171717171722182117171722182d172c2c2c1327131313131313131313131329292b2a292a29282717,
  0x17221836171722222222172231223535353531343122223333333333323333333231313130302f2e17171717,
  0x3f223e3c223d2b3c223b371822172332323a1722183917172222222217222222221722183817172222222237,
  0x2021423846454645464546454645464546454645422d17441736173617363143424123402340234017031631,
  0x4f4f4f014f034d4d4d4d4d4e4d03034d4c4c4c4c014c42392b4b2b4b2b4b314a182217492218484720212021,
  0x153034e56565656565656565656015603261726172a13550154131317131753181818180118525150314f4f,
  0x5833132b58335833131313132b595959595959592b595a1313595833262a5748535353535353535353535353,
  0x3333335e0133133313335d3158335833583358331726015c3a3a2b315b3a2b3a3a3a3a3a3a2b175b325b132b,
  0x3a3a3a3a3a343a602b602b2b5b5b5b2b5b175b2b5b2b5b3a3a3a3a3a5f3a314a484848483448343333333333,
  0x64625862626262626262333362623333333333336362623131625b5a5b5a3a3a3a2b3a2b3a2b5050613a3a3a,
  0x33116a5d3103693a2b3a2b672b17672b2b176867676767676667666666662b6617661766662b2b1717652b01,
  0x6767676701677070015a015a016f016e6d6d6d6d01316c6b336b33034e034e034e5833034e316c6b336b3358,
  0x7575323274327432743274747450743232320132737373730172720101716767676767676767676767676767,
  0x83827881807c80787f7e78506c787d7b7c7b787a7978506c774517760c66666601664e4e4e4e4e014e175375,
  0x6767673a3a3a3a2b5b5b955b946423932319928f8f8f8f8f8f8f8f8f8f8f91908f8e8d8c8b8a898887868584,
  0x85845797666696323a666666663a666666676767672b4e4e4e4e4e4e3a676767676767676767676767676767,
  0x139b1313132b8e8d8c8b8a8988878685849a2a992a98989898989898989898989190988e8d8c8b8a89888786,
  0x8a8988878685843e9f9e48479e48479e484719489d3a2b132b193a2b9c9c9c9c9c9c9c9c9c9c9c91909c034e,
  0xa2a2a2a29190a28e8d8c8b8a898887868584a1323232323262a0a0a0a0a0a0a0a0a0a0a0a09190a08e8d8c8b,
  0x3aa719a81919a8a919a83a2b3a3aa7333a2ba4a43a3aa6a5a43333336c6233a3625e195748a2a2a2a2a2a2a2,
  0xa5aca5a5a5a5aca501aca5ab7433ab7433ab7433ab7433ab33ab33ab33ab7433aa3aa7336c6233a919a83aaa,
  0xa6b1a6b101a6b1a5b0a5b001a5b0afaeaeafaeae5201aeada6ada6ada6ada6a6a6a6ada601ada6aca5aca5ac,
  0x2a1722179d17171717172323b617232217233d2b17233b37170322b517b4b3326cb332322b182217b201a6a5,
  0x3a1732313a6f32176f5b6fb96f31b8335748b73d2b17233b37176f31b8336c62335748236c62335748b71722,
  0x31bbbb6ca7ba78506c313a3a1732313a176f31b833176f31b83357482317171717172323b617236f31b8333a,
  0xbbbbbbbbbbbbbbbbbbbbbbbbbbbbbbbbbbbbbbbbbbbbbbbbbbbbbbbb2ebbbbbbbbbbbbbbbbbbbbbbbbbbbb22,
  0xbc583a2bbd3a2bbdbc58be5b5b3a3a3a3a3a3a3a3a3a3abdbc583a3a3a3a3a3a2b175b345b2ebc58bc58bbbb,
  0xc4c4c4c474625ec1c3c1c3c1c3c1c3c2c162c0bfbb58c0bfbb58c0bfbb58c0bfbb58c0bfbb58c0bfbb58bd24,
  0xbfbbbd58a6a5c262c3c2c162c4c4c4c474c4c4c4c474c4c4c4c474c4c4c4c474757575753250325032503250,
  0x2bbabbc66c5b62ba3a3abc6f31c5333a3abcbd583a3abba6a56c62baa6a5625833c0bfbbbd58c0bfbbbd58c0,
  0xbfbbbd6c2458ccaeafc0bfcbca52bbbd583a3a1732313a32a718221732c962a758a7316fbdaec8c7a73aba3a,
  0x3acdbccabd3acdbccabd3a2bcdbccabbc6bd6c5b62cdbccabd3a2bcdbccbcabbc6bd5b58cd03bcbbbd6258c0,
  0xcd4e3a4e3a3a3a4e3abccbcabbbd4e3a58c0bfcbca52bbbd2458bccabd3acdbccabd3acdbccabd3acdbccabd,
  0x6fbdaed9d8c7d7586213d66bd5197cd4d3d2d16fbdaea6a5c26cd05d31cf62ce33bccbca52bbbda6a56c4e58,
  0xa6a5506c31cf62ce33da5862d66b7cd4d3d2d1bdd05dce33d4d1bdce33d66b7cd3d2bd50c2d05dce336fbdae,
  0x33d4d1bdce33d6bdce33d6bdce33d6bdce33d6bdce33d6bdce33db586250d1bd6c62ce33d6d519d4d16fbdae,
  0x6767676767674ed66b7cd3d2bd50d05dce33d6bd6cd9d8c762dc3366662b67676765d6c6bdce33d6bd6c62ce,
  0xd6bd666c2b62ce336666666666662bc66567d6c6bdce33d6bd6c62ce336767c6672b3ac63ac664dd58626767,
  0x33eabde9e8e7e6e5e4e3714ee2e1e0d8dfcf62af33de5862d66b7cd3d2bd50d05dce33d6bd6cd9d8c762dc33,
  0x3abccbca6bedc6bd6cd83a2b58af33ec6e3a3a3a3a3a3a3a3a3a3a6e6eebebebebea6fbdae71e2e0d8df62af,
  0xbdaea6a5c26cd0e9e8e7e6e5e4e3715d4e31e2e1e0d9d8c7dfcf62af33eebccabdd8af33bccabdd83aaf333a,
  0xea52d66bd5197cd4d3d2d16f]⟩

/-- The list of actions that an override puts. -/
def actionValue : Packed := ⟨2080, 11, 32, #[
  0x38870ce11c13806fcdf1bd3786ecdd1b636a6c0719981c0000dc8000006dc000001c6384700df00237800802,
  0x3be778ee9dc3b6768ec8e71d23a0ec1d73ac754ea1d33a4744e81cf39c734e61cb32e6bce51c939071ce31c5,
  0x1d43b0759b4366390730e53646c46e0da32c654710da40c8150220340479cf31e53c878cf11e13c03d87c0f7,
  0x2390fe1fb3f47e4fc1f70026dcdb9fc3f67e8fc9f80027dcdc0da1f23ec7d0f31ea3d0780f21e23b4778ee,
  0x4829011fa3e47a8f11ca3846e3791b2354688cd17a2e44a8b51622b14a880fa1fd3e43e47b0f31e03b4750e7,
  0x44a8b51622b04e88128a500007d0f90001c6945130e04a093d2724d49892d2524949091d230df48a91121a42,
  0x1d439c7224f49c9352624b4949252424748c915222434849052023f47c8f51e2394708dd1b2354688cd17a2e,
  0x3e4835061f43e482d04a0a85308e1125183f075284414608c91422a1b637614c2384507e0e8f91ec3cc780ed,
  0x152400548a875029e53851ea3a95529515486845029592b67cc679bd2a800200424a511922a1bad19061f4,
  0x9b70e293d204a2941c08004328610ba164328610ba164328610ba164187d0f9215aa27f4fb1f43e481c00000,
  0x3fa804fa1f240085ab856fadd5b2acd5500153aa3d42a734a000294a754d9c451fa3d4768e4fe9f73de77cdd,
  0x4028250418a2fa000fea143e87c909a19b05606c057f4315fabed7caf67f5071f43e483d0bd75ae95ceb920d,
  0x1ba36d192304548a12921a4768e918a304528a1138db00087c6d21b434830000000000010500000000108000,
  0x4027d1089f21ba36d192304548a13e23a1f20007b0001e6000780001da000750001ce000720004f88e86e800,
  0x74ce1c6d0e3742cc5d039772c001c30e070ae11c1b82002e011da3a1ba0011900045400149a35000830fe800,
  0x84f096134258510922945300310a23c438510de1b4357b4f4de93d1002f29bfb7e6f2de127a4b47ceb9bb801,
  0xa8c00234c6849891520a4046c8ba334648db1b235c6a00318e2f45f49891520a4046c8ba334658c918800c56,
  0x68cd99374a994528e1528b93b27a49c94943282494909235a6b3d65ac758ab055ba4b4926c00091b23a4548b,
  0x9a7352694d199f34266cce997332644c995f09400cae8eb1818c800956d7188b4b694d24b595d2d80c1a435b,
  0x9d13a67550da1942672ce4001365461f25ec9f95d2580009c146d64ac357eaf55aab155ea7d3b00335e6acd6,
  0x5433b6770009c137dee4dc7b74568a513a1d42e854e69c60026d26e8570a94e505a0d516a2503a0925e7e4e7,
  0x540f79eeb4ea831529ec9fa6f4ae30c558a927e4047f8ed1ba2ec5089f13a930009e53c6764eb9c33895baa4,
  0x9e00024b495a0125e7fd1758f4495ad01000a8a87ab49e8a74935100013d4004be9324327b00092f3ce52001,
  0x8e152ea553ea7f4d29ad32a674c298d2ea5e94a2bc598b14b696522a4746c0051aa3341c0041a9fb0667d129,
  0x566ac958d6bad4ab956aacad0aa954aa8002a6eb6d5300357000d5200354000d4daf55e6bc54c00286e37c71,
  0xa300028b000a220028c516a22fa27c3e554f59800d5daef5dab8d560035b6a9801003551662cb594b25642c6,
  0x446885112254408790ea1c1b60006e8001b6ae15b2a6002a8d67ace59aaad5280153f0861000000000000000,
  0x45e99131a624ae9692ca5e4ba97130a584b697d2b26000099e460004489b510a6c44a8812aa544a72f400224,
  0x55cab5562aa552aa14d80056ea9150a9c52ea48002d9000a814c0005200013726b4d49a5242464d08f533265,
  0xae15b2a65460015a29e53a00163ab554449967ace59aaad52a9f000b3165aca592b21632b3564ac5582af,
  0x4dc9ad352694909193423d4cc99517a644f69e92ba724e29d93aa744f29c139a774de9e00026760ec10002a7,
  0x4909193423d4cc99517a895109916d2db5b000147a8e514a2d4027f508a0d412874fca0542a7d50c99d4c800,
  0x57cb0d5d2bd582ae5610004ce375138db4648c51822a4528a00029a532a5d4b26652a001492914ae9ad35269,
  0x5febd97cafd5eabf933b0a612c21833036040012ba6b4d49a5242464d08f53326545eb1562264578aed602bf,
  0x7f07fcf6c1e336670cec0b8150300029960a95d35a6a4d29212326847a99932a2f602c01322f85eebf17dafa,
  0x87cb461fc3b8750e61ec348670ca24c488950c217c2e85b0b1febfc839069fdbfe7f4fe61e431837064c2183,
  0x9872fe4dc9a00322243c7b8f51f23c4778f31ce394748b716a2e4839092064147d8fd13225c4d88d11622440,
  0x995145aa49805800647cc698930a604bc9752a253cc79872fe4e49a00322643cc5989306604bb97529a52cc7,
  0x32855c0018a2ae000c517d2ae564b117e2ae005913219732e25a4b50032c6594b796d2d2598019632c242c86,
  0x35a000f49ea000650d51a92ae7c4f81ef3dc7b0000002ae650d31a4344684001a133e678001ac320000c9157,
  0x34055cd380030a638cc99a35c6b40000034267ccf000358650c898e31e64cff19c3fe6b8d6800336670f69ae,
  0x3d6650d018e3506acd71ad0007c4f81ef3dc7b0000002ae650d319131c68cd296c2d6578ad1582ba69cc5194,
  0x76eed9dabb4766ec9d8bb075eeb5d638868ce24c331300062d362544a6948b616b3ea568f995d328644c71e8,
  0x7aef59eabc17a8db5aebd079ef39e6bcc75ef2de4bc878ef19e2bc4786f09e0b7d6f8dedbd35d68cdb5dcbb8,
  0x6b6d2da5b4a694d25a496b2d6574ae98c31ad1da5b4a6925acae96c060d21adb466cc001b736c6bcd35ecbd8,
  0x73ae71cdb9a732e61c838f71ce35bb3756e8dcdb93716e0dbddd000716e29ae311318d718898c31ad1c0035b,
  0x7e6fc1f6be97ccf91f3bf17e4fb9f7beb7d8fa9f1be27c0f85d2ba4746e89cfb9e,
  0x81302203be47eefd9fabf48310520840680b05e09c0f80900e0b41281d00a00c15823036003ff00000000000,
  0x2d6634c617f2d85acc31843066040018b644c85ef3dd7bef01dfbbe77aef1d5baa752ea1d3b95728e4dc9391,
  0x2fa55cae15b2aceeda31612c057c05809718cf59e31a632c618d9105a6d1168b452d85acc4185300608c396c,
  0x69ed39a6b6b6d4da5b432068cd9d8e3546a4d69acb586ae0b1ab3556a65b0b595e2b4560ae98a312564b117e,
  0x5acb51690305a0c3d872d506ac3569b0b5a2c318bb16628c4988b106580e995b15250ca99402f652d31a8b50,
  0x6c40b1b0b60000d7d7a2f35e4bc5782ef5dcbb5762eb5d4ba5742e75ccb95722e35c4b85702df5bcb756e2d7,
  0x162ced9d339670cdd9b335668ccd9933065ed09a0b3f67cd0da032e65ac9d93325648c8d8fb1e63ad95b2363,
  0x424200f80b20e024490aa28a4c01582a05009c1302504808c110b015e2b80f01d03806c0d01101e2b4560ab,
  0x17c2f45a8b41662ec5d0b91702dc5b0bc1682e8a694c29c510658c2182324a114112a318629402862388488c,
  0x2a4550490bf296000640c7180310618ca19829852897146288a48a013e278a409412626c4d147294248590ac,
  0x21e4288896a2d0434859672d233c6a95029e544be17a2f25ecbc1762ea5dcba1722e25ccb816e2da5bcaa953,
  0x2724e0080a91502604b0a41420004e89c13229c9b9352304d0999322284c49b12021c4309592924849489110,
  0x238490809101fe3f0801662c8300621632ca4b49612824e4989792825c4a0950921225189f93e27a4f09d93a,
  0x1ac350000d31a43446b91b2324608b91622a4508991a2464849011f2184788e92220c414821032043f87e835,
  0x14020030050522404681903005c0b01502804c458101140344488810e01c4308511e2486694b1b2360680ce,
  0x660c81883005e0b81b804006210418821022003f87e0fa1f03d87a0f21e03b8760ea0b41082003e0480700c,
  0xa41442804f09c1342604b0de1d02504908e1182284808810c2084007e0f82103d0780ec1d0390700d81a834,
  0xe61c8388700dc1b43606b0d41a4340670cc194320630c41843005f0bc1742e05b0b41642c0570ac1542a053]⟩

/-- The base of each row of nonterminals. -/
def gotoBase : Packed := ⟨684, 10, 35, #[
  0x2008000000000000000000000000000002c0b02c0b02c0b0380003000000090000000000000000000000000, 0x0,
  0x0, 0x0, 0x0, 0x0, 0xdb0000000000000000000000000, 0x0,
  0x3f4003f4004891e4791f47821000000000000000,
  0x15c0015a00000000000000000000000000000000000000000000000000000000000000000000000000000000,
  0x17c5f17c5f0005ad6b5ad6b5ad6b5ad6b5ad6b5ad6b5ad6b5ad6b00000001655916459162588210000000000,
  0x19765d9765d9765d9765d9765d9765cfd6519464592645876358d634fd62d8a624fd61cfd614005f17c5f17c,
  0x19765d9765d9765d9765d9765d9765d9765d9765d9765d9765d9765d9765d9765d9765d9765d9765d9765d97,
  0x1e5795e57959e785e1785dd77dde775b66699765d9765d9765d9765d9765d9765d9765d9765d9765d9765d97,
  0x20b79608821e5795e5795e5795e5795e5795e5795e5795e5795e5795e5795e5795e5795e5795e5795e5795e5,
  0x218862188621886218862188621886218862188621886218862188621867a1284a1284a1282e0b82e0b82e0b,
  0x23a8ea3a8ea3a8ea3a8ea3a8ea3a8ea3a8ea3a8ea3a8ea3a8ea3a8ea3a8ea388e1e58d997862188621886218,
  0x26298a6298a6298a6298a6298a6298a6298a6298a6298a628f66097a5e8ea3a8ea3a8ea3a8ea3a8ea3a8ea3a,
  0x280a0280a0280a0280a0282a0a82a0a82a0a82a0a82a0a82a0a82a0a81a025e98a6298a6298a6298a6298a62,
  0x2a9aa6a3a0a82a0a82a0a82a0a82a0a82a0280a0280a0280]⟩

/-- Where the overrides of each row of nonterminals begin. -/
def gotoFirst : Packed := ⟨685, 11, 32, #[
  0x3a0700d81a0320600b81602a050098120220400780e01a0300580a0120200380600a0100180200200000000,
  0x7a0f01d83a0720e01b83606a0d0198320620c01782e05a0b01582a0520a01382604a090118220420800f81e,
  0xba1702d85a0b21602b8560aa150298520a21402784e09a1302584a0921202384608a110218420821001f83e,
  0xfa1f03d87a0f21e03b8760ea1d0398720e21c03786e0da1b03586a0d21a0338660ca190318620c21802f85e,
  0x13a2704d89a1322604b89612a250498921222404788e11a2304588a1122204388610a210418821022003f87e,
  0x17a2f05d8ba1722e05b8b616a2d0598b21622c0578ae15a2b0558aa1522a0538a614a290518a21422804f89e,
  0x1ba3706d8da1b23606b8d61aa350698d21a2340678ce19a330658ca192320638c618a310618c21823005f8be,
  0x2003f87e0fa1f23e07b8f61ea3d0798f21e23c0778ee1da3b0758ea1d23a0738e61ca390718e21c23806f8de,
  0x2824f89e13a2704d89a1322604b89612a250498921222404788e11a2304588a1122204388610a21041882102,
  0x330654c918f318624c31833005f4bd1772e85c4b716b2d0594b115f2b8564ab1532a0534a514728c510a1942,
  0x3e87c4f81ed3d87a4f31e33c0774ed1d73a8744e71cb390714e11bf3786e4db1b33606b4d51a7348684cf19b,
  0x45e8b916a2844e89912a2444688910a2043e8790ea1c4368690ca184288410620940c815022024027f4fd1f7,
  0x580afd5f2bd578aed5d2b952ca49472865049e938a704de9b9332654c69812ca5549c92922a404768d918a30,
  0x5d2b9d72ae35c2b7d6eadb5b2b5d6b2d55a8b4d692d15a0b3d672cd598b2d652c9590b1d632c5588b0d612c1,
  0x67ace598b2c652c9991b2063ac698bb14622c3d86b0b612c1d82b03602bfd7eafb5f2bdd7aaf35e2bbd76aeb,
  0x6e6dc9b8b706dedb9b6b6c6d6da9b4b686ced99b2b646c6d89b0b606bed79aeb5c6b6d69a934d694d25a1b41,
  0x7a6f49e8bd079ef39e6bc5784efddebbb772ec5d5ba573ee65c9b8d70ee19c2b82700df9be37a6f0dd9bab74,
  0x85d0b61642b8550560a4007f6fc1f73ec7d4fa1f33e47c6f89f0be07bef79eebdc7b6f69ecbd87aef59eabd4,
  0x8bb15629c5189f13625c4988f116224438851062043f87d0f61e43b8750e61c43786d0d61a4338650c61842f,
  0x915222434849052023fc7e8fb1f23dc7a8f31e23bc768eb1d239c728e31c237c6e8db1b235c6a8d31863045e,
  0x985306604bf97d2f65e4bb9752e65c4b796d2d65a4b39652c6584af95d2b6564ab9552a6544a794d2965248c,
  0x4ee9d139a6bcd49a5342674cc995322634c4]⟩

/-- The variable that an override concerns, counted from the first one. -/
def gotoColumns : Packed := ⟨1262, 7, 50, #[
  0x2772c3bbc61f5e79fdc3bb70ac3ebcf0e1c6df0e23ad8ef13a75be5cb972e5e3c5bb75eddbaf84aaac3870e1,
  0x30df349850a28ad5ab566b970e5cb871c3b7672c253ee1dbb2b61e7cb8f0c3c388a35ebcfaf3cfd79efdbbf6,
  0xa61c384a61297ca14c37ca142984a14c386f94c3870e1c38709429870dfbe50a612986f9457857e12987094,
  0xa14297ca5f2850a142850a142850a61c384a1428530e1c250a142850a14be50a612850a61c387094c3870e1,
  0x30e1c3870e1c3870e1c3870e1c3870e1c3870e1c3870e1c3870e1c33b0e134ad5ab2852f94297ca142852fdf,
  0x60bbf02fc072e1cb872e1cb872e1cb8bf02fc072e2fc0bf01cb8f7630cec33ab05c33ab05f763dd8d771529,
  0x3456d3a2b69d15b4e8ada7456d3a2b69d15a7b461c38f0e1c30e9d15af5dbf02fc0bf02fc0bf02fc0bf02fc0,
  0x2b69d15b4e8ada7456d3a2b69d15b4e8ada7456d3a2b69d15b4e8ada7456d3a2b69d15b4e8ada7456d3a2b69,
  0x34e8ada7456d3a2b69d15b4e8ada7456d3a2b69d15b4e8ada7456d3a2b69d15b4e8ada7456d3a2b69d15b4e8,
  0x37a84e346d60a12b0509a7456d3a2b69d15b4e8ada7456d3a2b69d15b4e8ada7456d3a2b69d15b4e8ada7456,
  0x3af5ebd7af5ebd7af5ebd7af5eae5e36ac30589d3a2b149ed184f68c0993e3c384f68c09cf68c27b461bd427,
  0x3365a1af4e8ad9b2d07aedb356ef5db66aeba3b6cd5d7476d9abae8edb3575d1db66ae9d3a74dfa3b6cd7af5,
  0x3365b943866cb438f0cd96867c8cb4e8ad9f2329ed187cf9f3e6bcb8b069d15b871e018182d71213f2444370,
  0x162c59af0cc8ede7b4616acd7ad1a2c382f99afa94e9519b2e43b6ab96ac9525587e39f232e39f232d3a2b6b,
  0x16555955655595565559556555955655595565058b162c58b162c58b162c58b162c58b162c58b162c58b162c,
  0x2ad0595682ce541672a0b39505955655595562c28b0a2c28b0a2c28b0a555955655595565559556555955655,
  0x39509525672a0b1673e58e8315955663aac5663a0c5664c72a4b19ed184a933da30aab12555892aac4955624,
  0x16ac58516145851614585161458b162c58b162c58b162c58b162c58b162c58b162c58b162cc3327b4612a4ab,
  0x24b19ed184f68c2549573da3095255cf68c2549573da3095255cf68c2549573da3095255ca933da3059870c7,
  0x1614585162c58b162c58b162c58b162c58b162c58b162c598664f68c254957cf1b1e78d8e3638d8e363931ca,
  0x16ac95255e1d7863dab35eb468b0e0be66bd6ac9525587aab121223567b460b2549569091158516145851614,
  0xa2c295565558b162c58b162c58b162c58b162c58b162c58b162c58b162c991dbcf68c2a53a5466cb90edaae,
  0x162c58b162c58b162c58b162c58b162c58b1661993da3095255eb581b5eb591213f244432c28b0a2c28b0a2c,
  0x78f1e3c78f1e3c78fd63f5d5583d2a446890a03e78e9c3664c172c508080c0561458516145851614585162c,
  0x3456cd96867c8ca7b461a8780d43f50fd43f50fd43f50fd43f50fd43c78f1e3c78f1e3c78f1e3c78f1e3c78f,
  0xe19b2d0d43f50fe3c35e9]⟩

/-- The state that an override puts. -/
def gotoValue : Packed := ⟨1262, 11, 32, #[
  0xa8951522d7fae97415bdb18fd5325e406b095f2bbd63aa71f27a296548a6119a4046bbb4cb99bdcbb4b486c4,
  0xa8d6900ed26a4b48a90d78a3546687d0ea1b4330ccfdc5941a805bb9ff3faaa54fc4f3ea7cda8b433c678573,
  0x96169ca301eb300700d82cb09602be577aed5d71b566acb58eed95fac58b6af55ba056f6aad53a93522d7547,
  0xbf17defb5f1bd97a2f33d12c378ef11605a4119665dd58f7702299a2bd756e8dcf79f71ae2aa3b7ca880f982,
  0x7af85f0b615c22f5b0860fc1d829eae09c1181dea6067a6594b2163c0a128248485a7811fca28bff7f913bd2,
  0x7d2fa1f3be62ce8b5f2be47c788b10e207c4f85f03dfc3f87b0ebde7baf71edbda2cc12d1622b455869ecbd8,
  0xc778eb1c637c6b80b1962e05c0b41582a5ceb9972ae45c6b8970ae04b6b796ea5a5b695929ada47e8f9f5bea,
  0x909211e73fe30a5672be56cab95329e52ca394327e4ec9b93325e4ac9392323e46c8b91321641c818ff1f63c,
  0xdb196f6ae59d958c124e3157b707525c04638994a59f8a311e514a2c7b87319e03bc1783155d9d4ba9645c8b,
  0xb536a6003c65bf90d6e6395b38d16c62b453804b15e408f779135d2d55aa8aedc20896e631c4e8bd1322cc4a,
  0xcd39cf39e73ccf99f33e65ccb9964bc9792f2564ac95cc398730dafb5f6beb3d67acf5fc00000ae75cf485a9,
  0xb99732e6677cef9def9df3be77baf75eeb9772ee5dcab9572ae3dc7b8f9d73ae75ce99d33a66acd59ab34e69,
  0xc1b8370660cc197d6fadf5be97d2fa5f0be17c2f7defbdf7aef5debbd57aaf55e7bcf79ee75ceb9d736e6dcd,
  0xcff9f73ee7dcf99f33e679cf39e73c678cf19c738e71ce19c33866ecdd9bb34668cd18530a614c2784f09e0d,
  0xce59cb3966fcdf9bf33666ccd84b09612c1782f05df2be57caf6dedbdb7a6f4de9b93726e4e80d01a033fe7f,
  0x94f29e75eb4d69ad284d09a1325a4b49691d23a475faa97a734e5dfa8750ea167ecfd9fb3de7bcf79db3b676,
  0x8bf1722d4548a51963045b8a72265a4b494da2f45d979292524a3f78ef1de3bc788f11e2afcea000002b9ca7,
  0x98710a214428848da1fc3f87f0fd4cc3c8790f21e4cf98c91d5cc40891122244488cf18a2ec588ab19a32461,
  0x9d25d0ba1742e85d0c557eafb5f6bebbcab9572ae5abb576ae5f4be97d2fa21cbd97b2f65eccc88b11622c45,
  0xad55aab5533a674ce9ad35a6b6aad55aad31a634c3a173ee71cdbbe7e8fcedc48a91522ab9d45a885d674595,
  0x45e8bd17a2f43a990eb9d73af45e9bd33a674ceb6569ad35a74ee9dd3a000000000000029b534a694d29bd6b,
  0x440d81b1b62618c49c4ceed7f0b10f43dd9bb3766a2e45c8b91722e45c8b91722e45c8b917a2f45e8bd17a2f,
  0x65fae195eb7655ac993d51636e350fa7d4f89ed3b2754e89cd392714e09bd3726d4d8a3135a6a4d099d32a21,
  0x46faed976ba65bae5966b6653ac5936b064babd926ad647a898fea0639b059a6dd6b3b71ac6db6afb69ab6bc,
  0xd93b259c6a3d46c82c15816a95eabcb36ab155d8eecb673b219bed66aa9e92aa794a89e1292774909a521a66,
  0xd194e58bd5d001721b04aaaa47d0fa5b69532a6549fc3f93de7bcf7dd0d703c6e76b61db59b280e9ab191072,
  0x678ce910b8870ed6b6742dd7dafb5f1c939272400000404809c4d70adecd58cd3da793be9dd3a631b3da9ced,
  0x69c951a6a526989219f2436768ddc8b9371ee310fb526a2d41a5b4a692d21a3b4668ad11a1b42682d019fb3d,
  0x42fb1b636c642c8590b692d25a490aa1542b622c458841e83d079fa3f5382704e072dbab5fa1b434e59a7a55,
  0xadd576e4561baf3b69ccaaaa47e4fcdb69bd37a6f6e6dcdb990c218431bbb776ee4328650ced3da7b4d0ba17,
  0x6f8dedbd3796f0dddbb3756e8dcdb93716e0db9b6b6b442e29c2eea871bc3786f04288510a53d9df4eab8d18,
  0xdded743786f0dfa7aa6d4da9ac68fe9fd3fa1b43686d700955bfa546fc949bea486de90db623743ee0dc1381,
  0x522a4548a91522a4540a933e67ccf9ee2a51a153128f51ea3d47a8f51ea3d47a8f51ea3d30b953d67acf5ce7,
  0x620c395d2b656aad159ab2562ac157aae55ac79562aa54ea7d4d28750ca0e11282875a1342684522a4548a91,
  0x6c267694cf56be5d0ba1742e85d0bdacb594b25642c658aaf15daa9550a714dd9e61567584ad559cb3590b11,
  0x50ca0d82303604bf57e2fb5f4be57c2f75ecbd57a2f35e4bc577aee5d8c4d836e285db8770ee13f67ecfdd29,
  0x2e65ccb99732e65ccb99732e65ccb99732e65ccb99732e65ccb9973602b29802c85feb157f2bb5e0aa176a9b,
  0x3626c0d71ad3586a0d019930860ec397f3666c8d89b035c6b4d61a8340664c21832b85fe5297c9c764d83e8d,
  0xa694d29a533a674cf44688d1003406e830300600a81502604c0881101e03c0700e01602c0480900e01cd99b2,
  0x2b5d6aad55a8098130220469bd3676d4d69ab08]⟩

/-- Sets of tokens. -/
def tokenSet : Packed := ⟨239, 135, 2, #[
  0x10000010000000000000000000000000005ffff9d3ffffffffffffcdb7ffffffffff,
  0x200000000000000000000000000000000177f9843ffffffc0003b4cb297ff7fd7bb,
  0x3bfcc21fc00e0000019a6094bfcbfeb559000000007fe3fc0000800a00006000110,
  0x1bfcc21fc00e0000019a6097bfcbfebd58400000000000000000000001000020221,
  0x1bfcc21fc00e0000019a6096bfcbfeb55837f9843f801c00000334c1297f9ffd6ab,
  0x2000000000037f9843f801c00000334c1297f97fd6ab,
  0x1bfcc21fc00e0000019a60943fcbeea451000000007fe3fc0000800a00002000110,
  0x1000000000137f9843ffffffc0003b4cb297ff7fd7bb, 0x10000037f9843f801c00000334c1297f97dd6ab,
  0x200000000000000000000000000200000037f9843f801c00000334c1297f93fd6ab,
  0xa00002183ffffefffe4005980033001881000004307ffffdfffc800b70806e00390,
  0x80000000001000004307ffffc0000800b60806e00390,
  0x2000000000000000000000000000000000000000001fffc000000000000000,
  0xa00002183ffffe00004005904033001881400004307ffffc0000800b20006600310,
  0x2000000000000000000000080032000800000000000000000000000050006800300,
  0x2000000000000000000000080003018000000000000000000000002610000000082,
  0x800002183ffffe00004005900011000080000000000000000000000050000800300,
  0x200004001800000000000000000000400000000000000, 0x80034000000400000000000000000000010000600000,
  0x800002183ffffe00004005980031001880000000000000000000000000006000000,
  0x2000000000000000000000000002004000400000000000000000000000000403000,
  0x800400000000000000000000000000400100,
  0xa00002183ffffe00004005900013001881000004307ffffc0000800b20006200310,
  0x1f00c00000000000000a641000010400d0400000000000000000000010000400000,
  0x1000000000000000000000000000000800200b40, 0x10000000000000000000000000800000000,
  0x2000000000000400000000000000000000000000800200000,
  0x200000001801000004307ffffc0000800b60802e00310,
  0x800002183ffffe00004005900031000081400004307ffffc0000800b20006600110,
  0x4006000000000000000000000000000000000000200, 0x400100000000000000001fffc400000000000000,
  0x800000183ffffe00004005b04036001c80000000000000000000000040004c00300,
  0x800002183ffffe00004005b04017001c81000004307ffffc0000800b20806200090,
  0xa00000183ffffe00004005900032001880000040000000000000000000000000000,
  0x1bfcc007c0000000019a6004bf88eeb55837f9800f800000000334c0097f91fd4ab,
  0x800002183ffffe00004005900003000881000004307ffffc0000800b20002600110,
  0x2000800000000000000000000000000002000000, 0x4024001401400004307ffffc0000800b20002400110,
  0x1f00c000000000000008601000020410d03e018000000000000010c02000040831a,
  0x1f00c00000000000000a601000000400d0000000000000000000000000000400000,
  0x1e00c00000000000000a601000000400d0000000000000000000000800000000000,
  0x13000000000410020000000000000000000000000000000, 0x18000000000000000000000002e00000000082,
  0x20000004000000000000000000001180000000080, 0x4000000000000000000000000000000000010,
  0x1800000000000000000000000000000000040, 0x800000080000d000000000000000000000000000,
  0x84000000000000000000000000000000400000000002,
  0x4000000001000000000000000000000000000040800c00200,
  0x400000000000000000000000000000000000000000000080,
  0x200000000800000000000000000000000040000800100, 0x4000000000000000000000000000040000000000,
  0x80002000800000000000000000000000000000800100,
  0x80000000000000000000000000000037f9843f801c00000334c1297f17dd6ab,
  0x100000000000000000000000000000000000000000000000000020000000000,
  0x1000000000000000000000000000000000000000000000001,
  0x40000000000400000000000000000000000000000,
  0x80000000000000000000000000000000200000000000000000000000000000,
  0x4004000000000000000000000000000000200000000000,
  0x218000e0000000000900003000000000000000000000000000006000000000,
  0x800000183ffffe00000001a04037001c80000000000000000000800000000000000,
  0x800002003ffffe00000001a04036001c81000004307ffffc0000000340806c00390,
  0x800002183ffffe00000001b04036001c80000000300000000000000000000000000,
  0xa00002183ffffe00000001800032001881400000307ffffc0000000300006600310,
  0xa00002183ffffe00000001900032001881400004007ffffc0000000300006400310,
  0x20000401000004007fbffc0000000340802c00310,
  0x180000000000000000000080000000000040000000000000000000000,
  0x380000000000000000000000000000000c000000000000000000000,
  0x7800000000000000000000000000000005080000000000300002000000,
  0x8000000000000000000000000000000000800000000000000000000,
  0x200000000000000000000000000000002000000000000000000000,
  0x20000000000000000204006001800000000000000080000000000000000000,
  0x8000000000000000000000000000000000000000002000000000000000000000000,
  0x20000000000000000004002000000000000000000000000000040800c00300,
  0x20000000000000000204006000000000004000000000000000000800400200,
  0xa00002003fdffe00000001800012001880000004000000000000000000800c00300,
  0x20000000000000000000000001000400004000000000000000000000400300,
  0x20000000000000000000000001801400004007fbffc0000000300006400110,
  0x2000000000000000000000000022000800400004000000000000000000004400100,
  0x800002003fdffe00000001804010000480000000000000000000000010004000000,
  0x800002003fdffe00000001800030000080000004000000000000000000800000080,
  0x11000000000000000004000000000000000000004000000,
  0x20000000000000000000000000000000000000000000022, 0x100000000000000000000008000000000000,
  0x40000000000000000000000000000800001000000000000000000000000000,
  0x2000000000000000000000000000000000001000000000,
  0xc000000000000000000000000000000001400000000000000000000000000,
  0x40000000000000000000040000000000000, 0x100400000000000000000000000000000010080000000000,
  0x411400004307ffffc0000800b00002600010, 0x204004000000000000000000000000000020000000300,
  0x204004001000000000000000000000000000800000080, 0x4000000800340000000000000000100000000008008,
  0xc0000000000000000000000000000034000000000000000010000000000800a,
  0x800000000000000300000000000000000000000000000000,
  0x800000000000000000000000000000000000000000000000000000010800200300,
  0x20000000000000000000000400000000000200000000000000000000000000000000,
  0x8000000000000000000000000000000000100000000000,
  0x200000000000000000800000000040040000000000000000000002000000000000,
  0x20000000000000000020000000000000000000,
  0xa00002183ffffe00004005900013000800000000000000000000000000000018000,
  0x400000000000000000000000000000000040000000000000000000000000000000,
  0x4005004000000000000000000000000000800a, 0x2000340000000000000000000000000008008,
  0x8000000000000000000000000000000000000008000000000,
  0x7c0060000000000000000000000000000000000000002000000000000000,
  0x7c400000000000000000000000000000000000000010000000000000000000000,
  0xa00000003ff1fe00004005000012001800010000000000000000000000000000000,
  0x80000000000000000000000000000000008000,
  0x800000003ff1fe00004005004010000001400000007fe3fc0000800a00006400100,
  0x800000003ff1fe00004005204016001800340000000000000000000000000000008,
  0x8001000000007fe3fc0000800a00006000000, 0x400000000000000000000000000000000040000,
  0x80000000000000000000000000000000000100000, 0x200000000000000000000000000000000020000000,
  0x800000000000000000000000000000000080000000, 0x2000000000000000000000000000000000200000000,
  0x8000001100340000000000000000000000000000000,
  0x400000000000000000000000000000000000000000000000000000000000004, 0x1000000221]⟩

/-- Where each list of actions begins. -/
def listFirst : Packed := ⟨1412, 11, 32, #[
  0x3c0740e01b0340640c01702c0540a0130240440800f01c0340600b0140240400700c0140200300400400000,
  0x7c0f41e03b0740e41c03706c0d41a0330640c41802f05c0b41602b0540a41402704c094120230440841001f,
  0xe41c03706c0d41a0330640c41802f05c0b41602b0540a41402704c0941242404708c114220430841042003f,
  0x14e298528a4146288508a013e2784e89c1342604b0941242404708c114220430841042003f07c0f41e03b074,
  0x18e318628c4186308608c017e2f85e8bc1762e85c8b816e2d85a8b41662c8588b015e2b8568ac1562a8548a8,
  0x1ce398728e41c6388708e01be3786e8dc1b63686c8d81ae3586a8d41a6348688d019e338668cc196328648c8,
  0x20e41882904206408809001fe3f87e8fc1f63e87c8f81ee3d87a8f41e63c8788f01de3b8768ec1d63a8748e8,
  0x24e498929242464889092023e4788e91c2364688c91822e4588a9142264488891021e4388690c21642884908,
  0x29051ca3144286508a094027e4f89e93c2764e89c93826e4d89a9342664c89893025e4b89692c2564a894928,
  0x2d059cb31652c858cb11612c057caf15d2b856cad1592b055cab1552a854ca91512a053ca714d29852ca5149,
  0x314624c418730c610c19813005fcbf17d2f85ecbd1792f05dcbb1752e85ccb91712e05bcb716d2d85acb5169,
  0x3546a4d41a734c694d21a3344684d019f33c674ce19b334664cc19732c654ca193324644c818f31c634c618b,
  0x3a0738e69cc396728e49c838e718e29c4386708e09c037e6f4de1bb3746e4dc1b736c6d4da1b33646c4d79ac,
  0x3e87ccf91f13e07bcf71ed3d87acf51e93d079cf31e53c878cf09df3bc774ee1db3b4764ec1d73ac750e99d2,
  0x42884d0921142083d0720d41882d0520941081d0320540880d012014007fcff1fd3f87ecfd1f93f07dcfb1f5,
  0x46c8d119a324628c117a2e45a8b115a2a45089d1322544888d1122144087d0f21d43886d0d21943085d0b215,
  0x4b69692ca584ae9592aa544a694928a5049e9392624a49292123a4648890d20a3f47c8f51e23b4748e51c237,
  0x4fc9f53e27b4f49e53c2774ec9d53a2734e49c537a6e4da9b135a6a4d29a1332654c698930a604be9792ea5c,
  0x53ca754e29b534a654c29752ca554a293524a454828f51ca354628b514a254428750ca1542283504a054027f,
  0x57caf55e2bb574ae55c2b756cad55a2b3564ac5582af55cab5562ab554aa5542a754ca95522a3544a855029f,
  0x5c8b8d712e15c0b796eadc5b6b656bad65a8b4d68ad059eb3966acb594b25642c758cb15622c3584b05602bf,
  0x608c0d81301600bfd7f2fd5f8bed7d2f95f0bdd7b2f55e8bcd792f15e0bbd772ed5d8bad752e95d0b9d732e5,
  0x648c8d91321640c7d8f31d638c6d8d319630c5d8b315628c4d89311620c3d8730d618c2d85309610c1d83305,
  0x688d0da1341680cfd9f33d678ced9d339670cdd9b335668ccd99331660cbd9732d658cad95329650c9d93325,
  0x6ccd95b23636c4d85b035f6bcd75ae35b6b4d65ac3576acd55aa3536a2d41a7b4e69ad31a5349690d1da3345,
  0x724e45c838f71ae2dc4b8770ae0dc0b7f6fadedbd3786ecdd5ba3736e4dc5b836f6dcdb5b636b6d4da5b4367,
  0x768ecdd93b175eeb9d6bac756ea9d4ba874ee99d2ba4746e89d0b9f73ce75ce39b734e65cc39772ce55ca393,
  0x7a8f4de93d17a0f3de73cd798f2de53c9790f1de33c5788f0de13c1780efddf3bd778eeddd3b9770edddb3b5,
  0x7ecfd5fa3f37e4fc5f83ef7dafb1f5bea7d2fa1f3be67caf91f1be27c2f81efbde7baf71edbda7b2f61ebbd6,
  0x82d0560a4138250460840f81d0360640b8150260440780d01602403805006003ff7fcff5fe3fb7f4fe5fc3f7,
  0x86d0d61a4338650c61842f85d0b61642b8550a61442784d096124238450861041f83d0760e41b8350660c417,
  0x8b31622bc568ab15229c528a313e26c4b8951262444788d116224438851062043f87d0f61e43b8750e61c437,
  0x8f71ea3cc788ef1da3ac748e71ca38c708df1ba36c6c8d71aa34c678cd19231c628c31822fc5e8bb1722dc5a,
  0x93f27a4ec9c9352664bc9692b25249c9292324247c8e91b23245c8a91121e4348590720a40c808ff1fa3ec7c,
  0x9833025fcbe97b2f25dcba9732e25bcb696b2d259cb29632c257cae95b2b255caa95329e534a494728a50ca0,
  0x9c33826fcde9bb3726dcda9b33626bcd69ab35269cd29a334267cce99b33265cca99332263cc698b31261cc2,
  0xa034027fcfe9fb3f27dcfa9f33e27bcf69eb3d279cf29e33c277cee9db3b275cea9d33a273ce69cb39271ce2,
  0xa5149e93525a4948e91520a3f4768e51ba354668c517a2d4568a512a234428750ca1742684506a0b41281d02,
  0xa9151ea3545a8950ea1541a814fe9f53da794ee9d539a714de9b535a694ce99531a614be9752da594ae95529,
  0xad75aab4d68acf59ab2d64ac7586b055fabd576ae55bab5566ac557aad556a9d52aa153ea754da9952ea5549,
  0xb1d636c658bb15626c4587b0d616c2583b05606c057fafd5f6be57baf55e6bc577aed5d6b9d72ae15beb756c,
  0xb5d6b6d65abb556a6d45a7b4d696d25a3b45686d059fb3d676ce59bb35666cc597b2d656ca593b25646c858f,
  0xb9d736e65cbb95726e45c7b8d716e25c3b85706e05bfb7d6f6de5bbb756e6dc5b7b6d6d6da5b3b656c6d85af,
  0xbdd7b6f65ebbd57a6f45e7bcd796f25e3bc5786f05dfbbd776ee5dbbb5766ec5d7bad756ea5d3ba5746e85cf,
  0xbe57c6f85ef]⟩

/-- The actions of the lists, with their sort in the last three bits. -/
def listAction : Packed := ⟨1522, 14, 25, #[
  0x3d00d82c90a5e2970b2200c8b2005602b402e8a5a2c78b1c23682e42360b1a21c800409c801800020014003,
  0xa5007a1ca084605883b4298052034103b214789060578d02057015a03d89cc0a4894827289c8251809801c8,
  0xa2860a1039009e02a608182820a0038e09d82a410e01d6146851409f87fe09f0a640df861005902740268,
  0x5610028ad100282e9002a969002ac79002ac71002a3690028b91002a361002ac69002a1c9002801100289c9,
  0xa9c8400a946400a098400a072400a0f4400a0d8400ab24400aa5e400aa5c400ab22400a032400ab20400a,
  0x34110028ec90029479002a4190028579002b4090028571002856900283d9002a7310028a49002a521002a729,
  0x1827a0b782da1f687d8111044602100820a4028e003a00c802a008801a004800a3b4400aa60400a520400a,
  0x2900a3e01c01d429c06cc0e601a836c81a626e009e02f801086b03dc0f68a560aa09ba32f0b0c32e836832e0,
  0x1d023a0f7820a36f023c08383bc293829826a8ada1b283ba05a04c635e83961170942082012627602882540,
  0x102824036f823e0910448366040208d81340b8007608106bc10001dc076809c078060a37003e409b81480aa8,
  0xa2346009a0248ce0022808201e8200086007201a80620168a68014804a708374840c09a81560db007809a0,
  0x13f046014903b80a5850802c83b60d7803e80f235600ea0388d5003680d235200ca0308d3802e80b234800aa,
  0x10261a0fc02b002888e20dc88e01b403ee16b03ce059829e24380a002f06ce0f302e20ad837c19886281748,
  0x248039424784060bc898225a88241220c000102bac06705560318042acd06600ff82d028900a41b483fc010a,
  0xab03e0003039c0a28d8a0e6800a002051c0f602a034883d001b00660190060013804801180421b504080da8,
  0xab83ea03e0b283438d0c063051022780a600d004681220468112044a98870c105037010484100db840e0f88,
  0xd072010883781080724109837a109071c107037610687161060374105847013f85ae0f502a20f486160fb0,
  0x27e01aa36100c001128041f78d2e01480aa1f70b5a2d489e62920a462d6018e01120c0011a044a1200448580,
  0x296004eb68812836801de013204ca9501aa013204c811294e1cc00ae3478d1c0a70b6a2a8004a8778d860468,
  0x19a064818a060817a2dc0b6005c816a0588d100568100054814a050843810e011204e8112dc804d820c3718,
  0x2620968252092824208e823208a82220868212082820207e81f207a81e207681d207281c206e81b206a81a2,
  0x8c01fe07388f00660dd8052824237580b882da0b482ca0b082ba0ac82aa0a8829a0a4828a0a0827a09c826a,
  0x5b00d283420ce83320ca84701ae2b380ae01121e203220c683120c283020be83f819002f204682ea0ba8988,
  0x3280d8899023208001d0066814c091811004400ba835a0ba884013a035a12a07880d483521ae03520d482ea,
  0x3ca0f083c20ee83b20ea83a20e683920e4838a0e2805a01493000e0837a4682b900dc836a4bc26b0c5004f0,
  0x48211e847211a84621168452112844210e843210a842210684124ae040a10083fa0fc83ea0f883da0f483ca,
  0x8501c807181c407081c006f81bc06e81b806d81b004c21b22560b4404000c204ba12c84aa128849a124848a,
  0x167817006201860610182060017e05f017a05e017605b8172050a52e29f814084fa13c84ea13884da13484ca,
  0x3e214884ca148851a3120c4014485120ba85d02f409c022a08a02260890222088021e087021a08602120858,
  0xe780140f280e625d03c81680a10054a0dc187854006d03be0848150854214e85321368532136852214a852a,
  0x7d01f207c01ee07b01ea07a01e4079838a261038812c04760ec00500eb03a80e9004c01283a203a80440e80,
  0xd281548c6875e1d20a6a1d180b4112873a23900e003c80ee01b806a01a00620b588260e3023807e81f807d8,
  0x1d7075a19989041da07581d5862c24087661d5075217589001d907501d3850023f87621d3074a14588fa0d30,
  0x56226608d020228a01d20920150af281a2055a26c097825c096825809582540948250093824c092024a1da8,
  0x1de8a2c28a822e1cd807c2178a2034e890c1d109621e107742ae07720638bf61cd09761dd87701db895e056a,
  0x572a2c4572a2a457222e4572738457215ca17915ca88115c9ce007e1e407801df8a0a056278e20a87602450,
  0x175019e2120046a82015a8b507420b484a21cf847a28889b01e3915ca0a915c9d8115ca98115ca45115c9de9,
  0x1e2086220b8cc230c0160857a80a20208061f90b5e1f8895c21287e01e489281e1802c2180bb0011a66418a8,
  0x35080cc058a83e20f0ce621b083620d0cce219883233288641e6879824b878a21a015e9e5879420c078224a8,
  0x21408122040b9421380a8203884c2e381041fd07f605c216e85b216a85a2166a9811648592cea33a0cd43348,
  0x2e607ec2148178a10884033b886e05da174a0888202f98856207881c2f708541fc117285ca8162050b961fa8,
  0x3380cdc20e883833407fa21a80ac1fe0c283098c1a3060bea2fa0be02f78bd62f50bce05eab9c2e6881a2060,
  0x5f226033f0cf633b0ce43378ccc08b01fc0728c243058be42f68bd22e4818a3400cfe33e8cf833c8cf03388,
  0x5fa99a26d888a26209b4221047826b887e224054234f88e82598b6e035895a27080ce21e0b2c2280d123450,
  0x602a1628509c416209721618970161096e160896c2a50d3634d0d382a08d282a1817ea70917ea24117e8339,
  0x22b018686128ee060ad6a2b40d5c2b209a626909a22680994264899026384a0127849c12688e846021808359,
  0x300194a2b819284303303558d4a153091603f052a24201b4450a190863a1942fe018c8760112063218a8622,
  0x21d888c25584841190944068210c467a19eb55919e867219a8662d6828480b60d08bc003f1196865a916465a,
  0x6b21aa86a21a68692a0e24683260c90a022ac8b7e15c03c60f1010a068a9f61cf0b600bf0802279016a1cc8,
  0x28d887c2248b0a32d099c2c18cb02628a3c2898af6317848c0e183840518a3806da1b486ca1b0845811406ba,
  0x25901962d980c42d90a9c0c088de0c00d2c2a002fa2d18b4029f09e2278050a26f882c222089a220889628e8,
  0x23791be85821bc85d1142a7f91ba86ea9fc46e21b88319152ae98ac00cb032a1d00b742ab09fe27f05122398,
  0x12f8a4429084ba24d89343148a3428c89300712a1e47121c2a8711c2a8789802870a1a25f8a1807301c086fa,
  0x36000d014e88dc242878c2ce02ee2cd82ec2cc80b03318b183300b163358b1426c8cc42c489402930a4a24f8,
  0x74a92200800c82ea0d5023481d0873a1cc9d111cc872a734472a57e23b08ea15f09180722ab423401c6ade0,
  0x782bf8077a8f6477a1dca3d11dc876a5a803511d88762bfa23581d686908d407525a22ed00bc474a8f21600,
  0xbc00fa3368cc833d0cd80178cbe02e09a820a09963128c4831184b812c893c126049624e8938125047224c8,
  0x4e01e68ca072e04183220c8031e0c70b8635303180c583c20f000240c3830c07920e224409f0078ab4c34a8,
  0x14f0d320648b4a27b01020004d260e0838007da1f487ca11807c21ee87b21ea80a01e88cf833c00b87f02490,
  0x4783aa0e98204b0d82028040200afc81fe87f2bc207ea7a024980d235481f8b5381a02818b8815281082da0,
  0x15405481500538144050814004f8dae36a0d8e1b205d004c813004b812c1208124048812011d0]⟩

/-- The symbol that each reduction gives. -/
def reductionSymbol : Packed := ⟨259, 9, 39, #[
  0x3a948d377ad1f4f965b298cc565b2992c86331592c8633158cc54da6dcce65bad936b543a1d5cae57abde287,
  0x29162a056a75329847a2110aa54a9d4ca250279329852a3d58884baa550a7532211a96592c160a34eaad48eb,
  0x3798abb5d36db4cf59b39d6ea50a8542a150b45a2d068341a0d35a27d3ecb4fb1996c94fa2192c651ab5388f,
  0x3496ad25ab75bae26531582e27032998c86630974b65b2f182cd71331bce0673218ac25d3856cb75b33178cd,
  0x2ed6efc7da39caf274ba606ec763b1d8e4763c9c6f87bc0df0f763bb5f2d55c2e5e0b96bbbdfed869349a8d9,
  0x3e9288c7c3dd168a7f3f5bef548c0600c46230d869a5eaf97afc5f2f9cef673afd810273b0db8bb4d2dd6ec3,
  0x9349a41269244a4dcee77425116e774255d0e848229e8f345411dc8a]⟩

/-- The number of parts that each reduction takes. -/
def reductionCount : Packed := ⟨259, 4, 88, #[
  0x6665555325424244444433333333333332222221135243132121111166555555444444334332222121433220,
  0x2211232233332125443333323245433444444444323233333333333332222222221221776555433331198776,
  0x54333324353324232152242332112212223222232332342132322332112414413322121321765433222]⟩

/-- The precedence of each reduction, plus one. -/
def reductionPrecedence : Packed := ⟨259, 2, 176, #[
  0x5555555555555555555555565555555555455555555555555555555555545555555545555555555555555555,
  0x155555555555555555555551415555555555555555]⟩

/-- The production of each reduction. -/
def reductionProduction : Packed := ⟨259, 6, 58, #[
  0x50000000000000000000000002010010810008a271c71c71c71c38e38e38e0000000000000002cb000000,
  0x2400021f6d44d244000002201c71c02038e00000000060000000058000034d00c2c0009,
  0x1600b00001700000000800000004000000000e0000000083800060005400000100003800001c6040100,
  0x300000000000000000228038000e01e01944000f00000300708000000010000002389c3910c0007180,
  0x85d0030da000000000000000580003]⟩

/-- What the parser does in each state. -/
def table : Table where
  actionRow := actionRow
  gotoRow := gotoRow
  lexMode := lexMode
  contextMode := contextMode
  actionBase := actionBase
  actionFirst := actionFirst
  actionColumns := actionColumns
  actionValue := actionValue
  gotoBase := gotoBase
  gotoFirst := gotoFirst
  gotoColumns := gotoColumns
  gotoValue := gotoValue
  tokenSet := tokenSet
  listFirst := listFirst
  listAction := listAction
  reductionSymbol := reductionSymbol
  reductionCount := reductionCount
  reductionPrecedence := reductionPrecedence
  reductionProduction := reductionProduction

end JavaScript

end CodeAtlas
