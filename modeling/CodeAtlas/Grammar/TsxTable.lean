import CodeAtlas.Parsing.Table

/-!
# The table for scripts with types and elements

- `Tsx.table`: what the parser does in each state.
-/

namespace CodeAtlas

namespace Tsx

/-- The row of actions of each state. -/
def actionRow : Packed := ⟨5994, 13, 27, #[
  0x40fa07b03c81dc0ea07303881bc0da06b034819c0ce06503181840be093048823c11a08b044813c09a086001,
  0x40b205902c816c0b205902e81740ba05d02e81740ba05d02e80ac0ba05d02e81740ba05d02c821410608103f,
  0x40b605b02d816c0b605b02d816c0b603d01d80e406e03501980c405e05902c81640b205902c81640b2059016,
  0x4095e9ef4f7adbd9e04af4b808c045fc6fe27f0bf81fbf0117ef3f75fc8ff77fb3fd605b02d816c0b605b02d,
  0x3e0dee4ff87fc3d35efcf817c03d45efef527a83fd1ee6ff97fcbfcde98f717b43fc5fe2ff2812c09604af53,
  0x4049eccf657b23d8dec4f617aebd81ebaf5f815bd79ed8f7d7b5be09efaf827b53d71ed2f9a7a73e69eb4f83,
  0x3c7a00f009804bc81e3ef197b6bf5dfe0fd27f4c01601efff7dec09203f02381140a604302a809c052041028,
  0x3e85f30f977cb3e55f28f937c93e45f20fa77d3bc75e48f2378e3c89e36f217a1bce201100878d402a015007,
  0x1a49784ba02f92e1fb64b6028013c00a004259800c0040277d33e95f48fa37d13ea1f1efa14d0823c122090,
  0x3f15f32cb2658be19f98fcc7aabe81f10f9f7ee3e79f98f87006002df5200a004802000e00625681e897c06a,
  0x3f0df84f6e7e03f05f0b0007c5be75f7ef8a7f2bfb5fa6fcf805c005f96fca7e4bf21f8efc664fb279ff6fbe,
  0x3ec5f60faf7d73eb5f58f9b7d5beadf56fab7c73eadf1af8c7d5be25ff8fea7f5bf61f9b0107b84019f88f6f,
  0x3ea9f54faa7f33f69f54faa7d53ea9ffaffd7febf65ffafaa7febea9fccfaa7febfe9f6efb67dabed1f66fb2,
  0x403601b00d7ab3d59eacf567ab3d59f55003801c00e006faa801beaa006fb87dc3ee1f70fb87dc3ea9f54faa,
  0x3f9dfcefe77f3bf9dfcefee7f73fb9fdcfee7f73f55faafd57eabf55faafd07e83f41fa0fd07e8403601b00d,
  0x3f51ff4ffa7fd3fe9ff4ffa7fd3fe9ff4ffa7fd3fe9ff4ffa7e73fe9ff4ffa7c23e71ff4ffa7fd3dd1ff4ffa,
  0x3ea9f54faa7d53ea9f54faa7d53ea9f54faa7d53fea004faa7fd3ea9f54ffe7d53fe9ff4faa7fd3fe9ff4ffa,
  0x3f3a005002801400a018f757de3d61f76fba7abbfb2018faa7d53ea9f72faa7d53ea9f54faa7d53ea9f54faa,
  0x3d51ea8f547aa3d51ea8f547aa3d520050047e7400a004fd4801400a005002801400a005002801400a005002,
  0x403201900c806403201900c7e7403201900c8063dd9ea8f547aa3d65ea8f547aa3d51ea8f547aa3d51ea8f54,
  0x3f39f9cfce7e73f39f9cfce7e73f39f9cfce7e73f39f9cfce7e73f39fd900c807403201900c806403201900c,
  0x3f51facfd47ea3f51fa8fd47ea3f51fa8fd47ea3f51fa8fd47ea3f51fa8fd47ea3f39eeefce7e73f39fa2fce,
  0x3de5fd8fec7f63fbdfd8fec7f63fb1fd8fec7f63fb1fd8fec7f63fb1fd8fec7f63fb1fd8fec7e73de1fa8fd4,
  0x3f99fccfe67f43f99fccfe67f33f99fccfe67f33f99fccfe67f33f99fccfe67f33f99fccfe6801400a004fce,
  0x364db2cd9b6cd3665decef777abbc5de0eef6ecb761baeef4779bbc9f9cf7c7e73dedfa8fce8064031f9cf7a,
  0x3551ab4d666a9bbadb08d8377c3609b02eea6c035fc02c01500a004c024eed7770044020eec6cab661b28d97,
  0x5daf6d7a6ac3565aeed786b7b5b5ad84af00c35e495cd686b4b5b9aaed746be35f5ae6d766ab35d5ae4d55,
  0x7dacad646b1b589ac2d606ae357dabc28114000e9abad676adb5c1ae2d6a6b5807803a4b000e006c034019,
  0x3cd9e6af34799809004600e00689fc04402103c92f40d606825d92e40bc4b725a814409c02025a12c9e644b1,
  0xf807a03c01d80e407003701b00d406803301900c806203001800bc05c02d01600ac05402901300a004c025,
  0x14809a04c0258128092048023811808a04402201100880440210108084042021010c084042018010408003f,
  0x1800c006079401740ba05c02d81680b005802c81600b005802c015c0ac05602b01080aa05402a014c0a4052,
  0x1ec0f607803c01dc0ec07503a01cc0e407179481c00de06e03701b40d806703301980ca06403181880c4061,
  0x3c61e4ef317983cbde5cf2d7963cade54087043021401e084041820c10608204082000fe07e03e81f00f807c,
  0x3cede76f4a7a53d29e8ef477a13d09e7ef3f047022011a08c046023011808c046023011808b0450225e30f18,
  0x3c0de2cf1578a3c4de24f117883c3de1cf0d7863c2de14f097843c1c12a094049bc19e0af0478bbcdde6ef42,
  0x3d05e82f03781bc0de74f03781bc0de4cf03781bc0de06f41781bc0de06f03781bc0de06f417a0bcf5e7cf03,
  0x3cf5e7af3d79ebcf5e7af497a4bcf5e7af3c79e3cf5e7af3d781bc0de06f03781bc0de06f03781bc0de82f41,
  0x3d15e8af457a2bd15e8af457a23d11e8af457a2bd05e82f417a0bd05e82f3d79ebd05e82f407a03d05e82f41,
  0x3ce9e74f3a79d3ce9e72f3979d3ce9e74f037a2bd19e92f497a4bd25e92f497a4bd25e90f487a4bd25e92f45,
  0x3c0de06f037933c99e06f267933d05e4cf267933c99e4cf267a0bd05e06f457a2bd05e82f3a79d3ce9e74f3a,
  0x3b71dc8eda7703b7ddbcee376dbb65e4cf267933c99e4cf037933c0de4af257933c99e4cf03781bc0de06f03,
  0x33519b4cc266e33659accd36693b61db0cc0660b2d1966cd06c9363db0cd916c73615b20d8d6bf3b85dbaee2,
  0x31f1b0eda96623315b14d8904e130097ed9c04d826813209804b82599c4ce166fb6219b6cd5661b3799aecd8,
  0x3675b5aca267db68d3460f9673b31d990cc66753631b56ce963e362db54dac04f02759c6ce86793331996ce6,
  0x36959fecb86cf33b1942cfe1f9324864ac9d240027d9faceb67e130596e4c3668b33d96accd6673325994da4,
  0x33d19de3f119211fc6ca36367a82859dcc830501314984c8565fb2f9b4c48165eb2f1976cba65b367d972ca0,
  0xda06ce3661b20d886c2cdd1b0028c8dac820513210994c8767c3401b50da76d0323590c4c926433dc98e4c6,
  0x31f88d8cfa67c92819124cc6553298942c8b64636899104cb2370db19e6c8a6d0b3b59e0c811b5328c6d20a4,
  0x33949aacae26a32b5da44db24d9271920caf24fb29194ac7f26993499e24d126833d91c8ce426e338099e4cd,
  0x1361960c93244b23991ecab656238893449624a9229950ca9245b2018faed776b3b55da8ed326b935994e8e3,
  0x3b45da0ecf7673b35d98ecb7653b25d90ec77633b15d88ec31fb3255d84ec17600fd59284ac255929c94c494,
  0x101080640220090007fe3fe25512947e83fd64e0ff19364d91f98fed9343fa64c8fe59303f864bb2447eec96,
  0x269dd58eba75f3ae5d7af0175c3af1e00eb775dbbfddfcefd7813ad9d6aebf75fbafdd7eebf75fbafc80c405,
  0x2e015a53305993801580ab05513781520a8053a699d564e129914c4a5eefc77d829814aeb17583abdd5cead,
  0x2d81640b126f8d4c6aa35405802bc15c30a1860c2ca6a53406094f93645414d4a6a016a4e327103ec1720b4,
  0x3341980cb06503241900c70630314a740c44d5030c1840c029c02fc17c0bd29b94c01780b605d82e8a6c0b7,
  0x3881c20e006f83801be0de06e83701b653906d03641b00d706b26ac1aa53c06a034ca760d2068834019e0ce,
  0x3c01de0ef07703b41da0ed07603b01d80eb07583ac1d40e94d683a01ce9ac07303941c80e3072038c1c40e1,
  0x29d01fa0fc6ed2a314f40fa07bb72d3700f809926c135e0f64d703d41e80f407a03cc1e60f307903c81e40f1,
  0x2a2150010e541b77c21adde086042c214109084041c20e106082b7742081036ee376c20410107f84001fe0fe,
  0x461bc211708b0454228113089044420ede06ef843422010f0872a295085442a1aa2d502a875432a15504a89,
  0x494248123091048822c116090848023e55f6e6047423c11e08e847423a11c6f2378c23611a6f10465bc4119,
  0x3718522dcf6e704dc26c13509a04cc262130097b734a8053f29e84b825a12c09604ac254129094379424e126,
  0x2f39ba6bcd6e92f30a9a54914b8a59ba2bcb2a4151ca8a2952a13798aae2941499554aa6dd05e50a49c44e21,
  0x38a1544a9c551aa6553ea9e54eaa69542aa054c0a61536e28713b899c4ae24549388d548e092622a5536edd4,
  0xdd06f0bc61b7953ca9c3732a60db87e032323f3729c5c29a6d8152d78a54a14cb8b5c58e2b715b8a9b5ce29,
  0x2aa5560aaf553aaa9c7ce3d71e38edc74e0c5e4b82d790e0a4dd26e4b1858a2b61558aa85522a88de4aa0bc7,
  0x1564a3c55871a38cdcaa3bc7192a51c8aaa654bb911c86e42720b905c80e3f71f2ac5556ab25542ab955aaac,
  0xe18abc3704d9a72138adc06d936c5a04d0371c38ddc6ce354de1574ab855b4dd8dd4a3e29c6e3ae98ab4de7,
  0xdfc6fc9c94e38df4ac25461be0dd86f637a2b00ddc6ec3721b8ae9d344e391c3b6e1baabcf4e336d5a12d0a,
  0xe5cacc3961ca95947283931c90e4472038f1c70e3471838b1c50e247103851c215907069bd1c10e04700562,
  0x26fc7523a81d38e9874e3a61d28e9074a3a41d18e887463a21d08e8073e39e1ce958c73839b1cd0e647309be,
  0xee076e3b71db8ed876c3b61da8ed07663b31d90ec47623b11d80ec07603af1d78ebc75c3ad1d627007563aa,
  0x15ad3a29cd5d595a8ad29cf4e5aea8b2e5684e915fd7529c34e10ee939c9ca72316017505674e08ee47703b8,
  0x3939c9ce4d726392d57aab755f2ad1574ab955c2ad5578abb559aad9c96e4a724b921c8e56e72b0dacada9d5,
  0x2e6078ae546ff8f10786e2f1e10f007823c01df8ef877adfe1941b3877646b1b6a9e1ca4a9053f3945ca0e4f,
  0xf347a03cf6f78f39bf4e301e7380479a3cc6f70f2c79456f1e48f2078e3c7729adf478cde81948ca5be2b99,
  0xf6c7b43d91ec0f607ae3d61eab705700b7f680adf9bd23d41950ca865432a6f938c47a63d24ec0f45d663c7,
  0x341570232b1958cac656df3707b839c1ae081f18f887c23e11ea8f547c03df1ef37ec7b83dd1ee8f707b83dc,
  0x36e9708d10687b439a1ab831963849c22e101f58fac7d43e91f40f9db6ebc41f30f947c85816da2e09a10d07,
  0x2e28ae85732b915c5bd4b892b82e6d734b88193ae1db7edbe5c3344970ae1870bb859c2ae147098fb47d8dbc,
  0x1bb05e62f33751ba05e22e54eb961136a6e62be0b8c5c658316cae7573857b2bd2e2caf25782bb95d8b04575,
  0x395dc005c32e11704b805bf2df27413985bd2de162cb125bb2dd2e8d7449d92c42e857405862c2ae7d73c2fe,
  0x37f5cc0e5f72f3979cbae5c72db7c1592ac35652b0158cac55622b05590ac76fe2afdc04ac272db969cb2e58,
  0x2b515a6acb56739b1cd6e6a734b9a171ee1c5c7386dc34b8d70cae31526e62552aa59c0ee06702b811c06e61,
  0x387dc3ce1d2c71635beadf453ab9cd51aa7b73939c5ce0e6f737b9b9cdae6c56aab3d5acacc5692b455a0acd,
  0x2cd4b1ee645e9b7b5bd8bb07332d09668b335e937add68b3226eae49d644ce5d6398dbf2df86fbb7d893ce20,
  0x1654b28b964ee276d3b45932c9164572a5905ca0b3168ab4459e2d0d676b3a5a0ace5670b37598acd972629d,
  0x2b795baadc56cab815bead756d3a09d02e8073fb9f9692b485a3ad19ccee654ef2774b305962c3ae5cafc9b6,
  0x2ba15caaec575ab8d5cce90747ba39d1ae8c53b3a2551ca7c7443a1dd0ce85742ba11d06e82570ab6d5c4ad8,
  0x166d75ae8a73a2e957484992cd16654f2e97548a9fdd2ce9574a3a4dd26e92748ba415daae75772b915d4ae9,
  0x1690b46e982d12384b705b72d0aff17f6bfa5fc9680b3e59f5fc2fdd7ecbf52cf1678b3abb25d896717e8bf3,
  0x2be95e0af657aabd15e2af857babbd5e4e9d74e3a6dd34e99745b9d53ac57d2d616acb505aa2d396a4b4c5a5,
  0x1725722ea6249b9f1cf6e7a24439e5cf0e7773b29ddd48a8f53eb9f5d46ea2750ba81d40e9f74f3a755f2af3,
  0x1744ba05cf2e71734b985cb5f5afa97d2be85f3af997cabe45f1af897c2be05efaf797b8bdd5d9aebd75c5ca,
  0x105082841520a105082a41420b905882641320990548284132d72e413be40725492909b4ea52ea174cb5a5d2,
  0x107483441920c105c82c41420a907082641b4f0106083041820d105882c41720b105c82c41720b1064830415,
  0x10a48505dc2ed909c84cbb62da96d081e40e206903081640a20490907dc40821196c08425af211108083e41e,
  0x2d29680dc459facf967adaf5982cbd65a4e55ddaee9772eaa2d916c5770bb7753aed5768b2e29010a884a429,
  0x3709a26bbe68a3b99778ee55aead716b6b5a5acad616aeb565aaad50bc6b535a92d456a0b4f5a72d35698b4b,
  0x2f0da0cdc86e1b6cd784d045e0b71578029e5debb9ddd0efa5952ca5650b275dfbba5df2b26592ac91646dc9,
  0x2d916c6b625eaaff56c2bd45e8ad816bebd05af2cb16565e22f09780bbe5de59136f5b76d116dcb6d9a18d0b,
  0x2db16d6b6a602afc1808bef601afb9804bed600ada57b6bec5b42d9d6ccbda6002ffd7b2bfe5ec2d957acbd7,
  0x4e82721384f1a7893c274b5be2ded6f4b795bc2ddd6ecb755ba2dcd6e4b715b82dbd6dcb6d5f9301d7e2c06,
  0x51828c1450a285142881430a1850c2841420a105042821410a004fc27c13f09f04f427813d09e04ec27413b,
  0x27953a81520a8854029e5e70a70534bcc14c0a585293c89b42f28571bacea90a48520bc8ea80a3851c28e146,
  0x5a42d01670b305942c81630b105842ba1600af85782ba15b0ad17a82b21580ab85582aa1542f497a02a69e6,
  0x5f42fc17d0be05ec2f41790bc85e02ee1760ba85d1816c0a604b0202e61720b885c02de16e0b685b02d616a,
  0x6283121890c486203101880c3861830c1860c2861430a1840c206103061820c086083021800bf86002fe17e,
  0x17bd836c1a60cb060bdcc1760b30558285ed609b049822c102f6303d81cc0d60617ad3d49e94f397f031418a,
  0x280d404a0150027fd3fc9fd4fe27ed3f49f94fc27dcbe85f54fb27d53e89f323ba7b0be69eb68b17c8be25f0,
  0x17f941660830397fd4145fd303349d3e49f14f827bcbf29ee2fc27b4bee8cf2fd97d9412a08503a81940aa04,
  0x648322190111063c31c2210c68630316a374e986c11a0612508183cc1c60d306182d41ea0e3052835418609,
  0x6883441a10d086843401a00d0067c33c19d0cf067433819b0ce066c3341990cd06643301970cb0654328193,
  0x191cc8c64530097e8c0264432199094706413003525a2ac26694069834c1a60d2869434a1a40d206903461a2,
  0x6a0c201a73029814c98604302192cc9664b3259928c066033249924c926493249924c90602301191cc8e647,
  0x3091844d18610345d476a3a51cb531a964e66a51720b8e5c62e297111ac6110d686b036a1ab0d886d03541a9,
  0x7043806160dfa8f037c1bd0de18503761ba0dc86e11ae1b20db86d83661b20d786b89ce29f3098a6d84a50c,
  0x7594801d50ea074c3a61d20e8a8fc3a01cf51f073839a1cc0e59854394a3d0e4872038e1c60e287103861c2,
  0x1a08c32d1d68f346da38d1968d1860c2e1e20f087803be1de0ee87703b61da0ec876149c9e80eb87b1484a41,
  0x1a41a4068f0f307943c861b0f188b445c1e80f6a9103d25b9611b07cc9e64d60f1869a9a68e3429a11a3e683,
  0xc5862a68b3452848d18d3d69cb4d5a62d2d6948c50d025d51899a2da4668a3449a20c3a61c3439a19a44d21,
  0x197ccbc65d32e196ccb465932c195ccacc1d32a9950ca66523463515a82a4f6a73538ca23173469940c9c681,
  0x19e8cf267833b99d8cea67433999c8ce267033799b8cda66c33599a8cd26683339998cca6643319988cc2660,
  0x7d03e61f20f707c43e01ef0f707ac3d45d92ec1878baea53529079cbac24912529454a067f33f19f4cf867b,
  0x8254ac208103881840a204310080d4aa20210088003fe1fe0fe87f03f61fa0fc98843f0a540fb87d8c3e1f5,
  0x1a04d16d3e69d34d9a64d2e6951a34d16d243408850bb421310908454b0210107883841c20d106082d4ae20a,
  0x298cc44d486a23501a78d3869a34c1a58d266a3b50cd02d3f69db4dda66d2f695b494d0268b6a33508d1a68b,
  0x86843221810b8d08682a5a10b08554c2a61530a9854c2a4752329154c2a6153094854c2b0f52db084c54d4f,
  0xc6063262931418994c4a68312a98892262452e188d4c8b1658aac41628a60589a97d624a5e588a975aa021b,
  0x1ab0d2862b3498c70d006273491a014d28f93d69a44f58a66532a98863631a34c96d8d2c26c58c1a54d006a5,
  0x18b8c5c62e1538a9cc5a62d31698b4c5a62d31698b4c5a62d3169a5055062c3161a4cd002a02ee9a48d22a6a,
  0xaa4c5c62e31718b8c5c62e31718b8c5c62e31718b8c5c62e31718b8c5c62e31718b8c5c62e31718b8c5c62e,
  0x18bcc5e62f31798bcc5e62f31798bcc5e62f31798bcc5e62f31798bcc5e62f31798bcc5e62f31798bcc5e62f,
  0x18c0c6063031818c0c6063031818c0c6063031818c0c6063031798bcc5e62f31798bcc5e62f31798bcc5e62f,
  0xa1850c2851420a0c5062821908c8063e69b18f0c74d3463131898c4c6263031818c0c6063031818c0c60630,
  0x1a5c4dab21349a9b44462201a0087c43c21d10e0a3c51c28d1458a3051628a1448a285122881438a2050e285,
  0x1a7cd3ca6253129b14e6a71537a9ad4d4a7034029bd4dc6803491a4cd2468034e29bcd246933491a4d4dc680,
  0x2c309dcb1758ba514620b0b3519a89020b014078fbd6326a11911a814e4b0057fabf95faafc4072bec8f869d,
  0x2c28d4e344282b0ad4cec2a61413ccb664f258da8c1348c2935313c545e6a461393c09de2a160e2c6861ed51,
  0xab0a206af2878d1c6905071a40d1c9ea22650a1ab8d5c50e1a3143468a5061a2b0b09e8b1c1129aa1426224,
  0x8a06a25151a80d3ca2834d2850d3869a5131a60d2ca1234c1a593dca245111a50d24a1034a1a493d844e6ad,
  0x30b8d64c2d3589ac4a2e6b028b28c534ad52586ac81640b0e11b08d446823311908c446022f11608ac454229,
  0x1afcd7ca3535e9af0d786bb51a1ae8d726b935c28ccd6e6b635b1ad5464c3228d9468a32c316181ad0a30c2f,
  0x1b0c8be45e4a19b08a065024a41404a00b1d58e93fc9fc4fd27e1b058666b327d93e89f24f84a3a8d8d806bf,
  0x1b404d623b11d08e4470c41276941186e32d19698ccf604ed2769208d9e45d23014112886fe61b08dca08326,
  0x1ee047e23d11f08f847a23d50a88f58884ed61c0a88c6432e1970cb865c4ed27693b4db8a4862113b4a0823c,
  0x90c4842416239b8142c2a314818d0c6a6342820cbc65e32f1979b7cdba4ed276a92588a4ed1201b48da233c,
  0xab45562aa1528a9854a50b31b18d8c6e63731b18d8c6c63631b142cc6e6362820a9186a3302769b4c48a244,
  0x18e0c7263931c98e0c7063931c98e4c7263831c18e4c7263831c18e4a162af31c98e0a084ed139a92848c2ae,
  0xad856a4ed1238ac85682b01598ac45642b12858ac0c7063831c98e4c7063831c98e4c7263931c98e0c70638,
  0x18ecc7663b31d18e8c7463a31d98e8c7463b31d98e8c7463b31d18e8c7463a31d98e8c7450b31d98e8a082b7,
  0x18e8c7463a31d98ecc7463a31d98ecc7663b31d18e8c7663b31d18e8c7663a31d18e8c7463b31d98e8c7463b,
  0x18f0c7863d31e18f0c7863c31e98f057c2bd28213b45782bb15c8ae85702b92858ae0c7463a31d18e8c7663a,
  0x18f0c7863c31e98f0c7863c31e18f0c7863d31e18f0c7863c31e98f0c7863d31e98f0c7863d31e18f0c7863c,
  0xb085802c115f8b00a162bf31e18f0c7863c31e18f0c7a63c31e18f0c7863d31e18f0c7a63d31e18f0c7a63c,
  0x18f8c7c63e31f18f8c7e63e31f18f8c7c63e31f18f8c7c63e31f18f8c7c63f31f18f8c7c63e28218f85882c3,
  0xb446643311680b404902cf1670b2c59a2cb1650b24a162c83201900c806401638b1458c50b16298f8c7c63e,
  0xb7c5bc2dd16e8b745b82db16d0ccc5ac2d616b0b585b02d616b8b585ac2d0127093449824b16a8b505a62d2,
  0xbc85e42f01778bb85dc2ed1760bac5d42ea1748ba05d02e81738b985c82e21710b845c22e116b093c5c02df,
  0x95c4ae25612b09584aa25412989484a22501818c0860230017f8bf45f82fc17d8be85f22f817b8bd85ea2f4,
  0x3120dc86e33710c1460826713309944c8262131898c4c426213109844c025f12f09744b825b12d09644b0256,
  0x3134a1650b285942cdd6a4d2859ba4dce6d7285a930dcac4b36b1b54f72c4661ca92d8926d4137310d87a7b1,
  0x14109da4ed27693b49da4ed27693b49da4ed28213b4a084ed2822518a08c3c62030ed87ec4e62630e9894c3e,
  0x1d5ceac7553771d518bec504089d34e9894137e9bb58bcc4f37f9b6c9da6da36c93b4db094a27693b4a08949,
  0x1eccd527b23fc1eac9daa17293252cf527a721a9ebc8587ae3811fdcf544ed3d410ad8ccc574029e98e9e74e,
  0x287d43cc72637a875438a1b2169edc4e8c7163728694326ab3559aa8e06c70636a860f6cb03370942cf6a7b4,
  0x289944aa243dd31858a4c6862ca88d4447fa5109488ff27533a91bc18c0c514091d44ea0700377b19d8b0a20,
  0x149c9da942632b1598d8c5d63231558d6c5c51628ad4547bb631b1518d4c5b514a8a144e4e8631314d8d2c5a,
  0x1c10e226f23e01efcf7cb0958413b49dab075832c1545cb0427693b49da4ed27693b49da4ed3de9ef145a4ed,
  0x1c24ffc8033e21bcd0047fb2172c7d1d0698382a0886b07f6409a05d02e81341b89a0f8a7ed3f69f14f867c1,
  0x10c50728ee411a08c4d481b29413a486080840a206100c80418320e04d241121790bcf9a7cf3f79f1cf8c7ee,
  0x1f6907e83e3ea90dd17882445d89a90408ba508a11486c83313790d08664323e9210908284041ea0f107683a,
  0x10f087a43d21e90f08768c045f9fd917cc7563a31cd20c27121c10e887443a21c10e487043819e89c117ab1e,
  0x1110886443221110488244146109c918280d21e10f087a43d21e90f087843c21e10f087843e22010f487e43e,
  0x110488244122091048864432219104882441221910c886443220910488244322191048824412219104888445,
  0x111c88e4472251120892448223911c88e44622091048824432219104882441221910c8864432219108884441,
  0x111c88e447223911c88e448223911c88e448224111c88e447224111888c447223911c88e447223912088c446,
  0x1120890447223911c890446223111888c447223911c88e4472239120890447223911c890448224112088c446,
  0x111c88e447223911c88e448223111888e447223911c88e447224112088e4472239120890448224111c88e447,
  0x113089844c226113489644b226113089844b225912c89644c226113089644b227113089a44c226112c88c446,
  0x113089844c226113089844d226113089844d226913089844c226912c89644b225913089844c225912c89844c,
  0x112c89644c226113089844c226113489644b226113089844b225912c89644c226113089844c226113489644b,
  0x112c89644c226113089844c226113489644b226113089844c226113089a44c226113089a44d226113089844d,
  0x11408a044f227913c89e44f22791408a0450227913c89e44f228114089e44b225912c89644c226113089644b,
  0x113c89e44f227913c8a0450228113c89e44f22791408a0450227913c8a045022811408a0450228913c89e450,
  0x113c89e450228114089e44f22811408a045022811408a244f22791408a0450227913c89e44f22811408a044f,
  0x11488a445222911488a4452229114c8a645322911488a4452229113c89e44f227913c89e450228114089e44f,
  0x9f04f627a13c89e04ee27613a91508a845422a11488a445222911488a4452229114c8a645322911488a4452,
  0x21110868ef412a0944fa8c6291a0590348c53f91f28f927f1486a31102a81940ca0551867c83f81fc0f90746,
  0x31e18eec7648fa345050a4343ca3c104e8274672334fea7f44661fccfe68cb465232519082646389f5388862,
  0x20bd1b482e416a0b51b2c7b63d31e52608d8416296514a82b415a3551a88d341526c511e8f1414a0a49d48d2,
  0x23949d845622a89f89d64eb27593ad1c08de46fac088207c229530d0a528dd3831fd8e246f246e236d06082f,
  0x1f308b845b1889f2cde28ec475a3a91d230e28ea39d1cc30d13f0c2461045a22c91608ae51c1839bd4de26f1,
  0x1184e108fe1840cdc66c33547d23b4a3a4ec292a070e0e3091848c209d833440389f8a488311868c484fc7ce,
  0x207903a092184a4092029002760cec66833a19ca0d50688321848c20fa627e3e889f88c88ff3e8118c8c4338,
  0xce506c6c51840c246123083ee09f8fb627e2329f64fb07d74820ce067e3383eb1f5061033448193b067c81f,
  0xc244fc7e213f1f848cc7e03ef8ce067e7de19f0cd0fba33e41082489d880a4048ced212908483a414a56339,
  0xd0c6863431a18d0c6863431a189f84fc7e513f1f9067c7e3406202ca563431a18d0c68690a13f0ce4dbc308,
  0x9f8fd43431a18d0c68634313f1fa44fc7e81a18d0c6863431a18d0c6863431a18d0c4fc7e713f1f98686343,
  0xd58686910487a4389c890c4858d5867e35219c94b08d04672091fa0fce7e63f29f90fc27e23ed9fb06867eb,
  0xce067230848a8ce061235248a244d2243081a90ce468634319c11a522233947da3c89c852d1a90d48672308,
  0xd0c6863431a18d0c68633819c8d4868634319c0ce0610338184a46523091748b0ce46a435219c8d0c686338,
  0x24a5250927493249524892347ea3d0610309491248524091e184247461291c48da4686108fc4798c20a56343,
  0x13b09d84ec19f93b067e4ec2761c289d84ec28e1bc49d64eb275a4d526893349924c525e92e496a4b125692a,
  0x1d6529870c385a4f4d8893827593b09d84ec27613b0a384eb27593b09d84ec49ba4d89d84ec27613b09d84ec,
  0x1c54ff8714238a4f8e267013881c3d2f24704bb9d6ceb47581aba5d92ac70e2379bd12a89514a79c3529a46a,
  0x23d500084738e1c6d2b07ff1ad1d7133499538d26353109874aba5f86b247338c9c612a46f63fe9c5c8e4716,
  0x256d2b49591ae9bec8ec8491ae1d78e427203aea11931c9a042425fc6b66fa2971be52a671f37c1c78dee71d,
  0x25912c69624b09d850aa854429a1490a2850427a13909a84c4258d792c095f4af25752b86fc3b01d7d094980,
  0x26252d072339125e88e89783b29d90ec69674aa8d7cec46c642fa1790ba85c42da1690b285842ba1592cc965,
  0x21b50d886b43521a50d086743321950c876a3b491d50c67683939c98ece86147b20050c07254b49d9932c724,
  0x11e0edc72c3959db50f08f73b6265ce5498a4b59ca4e5097b4b521dd0ec87543a21cd0e487143821bd0dc76b,
  0x1cb8e5a97c4b6223511888b44522251108874432215108771441a20910288043fa1f90fa87c43da1e8ee076f,
  0x226d13477744ca26112e89644aa251126892448a240eec77523c9dd0e627303b9a2391f07724cc1cbd31696d,
  0x22a51508a74531df0ef647a3bd1cd8e6a7794521de13327344c61ccce6497d451a2891428a044fa27913a89c,
  0x1cfce7c73d39e1ced27273a39c9ce0e6e8b945c22dd16c8b545a22cd1648b14581df515e8ae456a2b11568aa,
  0x1e24f106c84ce24e89067873c31e148fa784363a5c4f069704b79e08f0296e23d9e00efe7423bf266ce82740,
  0x1e58f2a94e2439e5127e6cb4cf9218f267923c89e40d9499e49e1214f1e78e3c69e30d9299d49d9210f1678a,
  0x25cd2e44973d09e80f3e4923cf1b30f3a79c3cda60892048f3cd1e653027983a2263c91c48d4a01d0c918797,
  0x265130c74a3a49d213269853a39d152a099225426449469844c1a6409447a53d21e8c93a7a236692612ea974]⟩

/-- The row of nonterminals of each state. -/
def gotoRow : Packed := ⟨5994, 12, 29, #[
  0x83182883082882f82882e82882d82882c82882882882b82882a8288298288368368358348347e17e1833001,
  0x8028018007f47ff7fe7fd80a7fc7fb82782682582482382282182081f7f381e81d81c81b81a8197fa828832,
  0x81881781681581481381281181080f80e80d80c80b8097f57f47f47f37f47f47f47f4808807806805804803,
  0x64177276d76d7e67e57e463b7e363a64063b63b7e263a7f27f16716776766756747f0673672671771771770,
  0x64564463b64163b63e64764363b63d64263b77476f64663c63c63c64063c63a63a76d63b77376e76d64063b,
  0x6857ea7ef7eb7e97f87e87f97ed7ec7e77f77ee63b63b63b63b63b63b63b63b64163b7f663b63b63f63b63c,
  0x5845845845845845845fb5cb7de7dd5847e07df7de5847dd7dc7db5845845846487447256fd6dd7bc79d775,
  0x10010010016dc6dc6dc6dc6dc6866826db0010020020026da682682682682684683682682681769768584,
  0x67f6d87676d876a67e001001686001001001001001001001001001001001001001001766001001001001001,
  0x67c6d96cd6786de7267456fe79e7bd6cc6cb6ca6c96c86c70010017766a36c668000100167b76c76b6496d8,
  0x6a46676d46d36d26d167a6d06796726cf6717946fc7437657247bb6657da6d66656d56d56656ce6d567d79c,
  0x6f57496b66b56b46b379b79a7997487986b27976b16f46b07967956af6ae6ad6ac6ab6aa6a96a86a76a66a5,
  0x7b67b566466366266166065f6c57d97d87d77d66c47d56c37d46c26c16c06bf6be6bd6bc6bb6ba6b96b86b7,
  0x7766fb6fa6f96f86f76f674274174073f73e73d76476376276176075f72372272172071f71e7ba7b97b87b7,
  0x78e78d78c74678b78a78978878778678578478378278178077f77e6ff77d77c77b6666d777a779778668777,
  0x69c69b69a69969869769669569469369269169068f68e68d68c7937be68b79268a68977668879179068778f,
  0x7c97c87c77c67c57c47c37007c27c17c07bf7a066968664968668664972779f6a26866a16866a069f69e69d,
  0x65b65a65965865765665565465365265165064f64e64d64c64b64a7d17bd7017d07cf7477ce7cd7cc7cb7ca,
  0x7037287b379e7b27b17b07af7ae7ad7ac7ab7aa7a97a87a77a67a57027a47a37a27a166a65e64965d64965c,
  0x74f74e74d74c74b74a71766b7166fe7156fe71471371271171070f70e70d70c70b70a709708707706705704,
  0x73373273173072f72e72d72c72b72a72971866c75d74575c74575b75a759758757756755754753752751750,
  0x6eb6ea6e96e86e76e66e56e46e36e26e16e06df7d37d27bd71966d73c72673b72673a739738737736735734,
  0x57b57b57a36f36f36e57d57d57c71d67071c66f75e71b7b479e71a66e6f36de6f26de6f16f06ef6ee6ed6ec,
  0x13c57f13c13c57813b13b00100100100100157857800100157836936936936936636636836836757e57e57e,
  0x37737637637437437400100137625d37537537437037237337337237237037237237037037137137057813c,
  0x371371371371371371371371004004003371371371378378374374001001001001001001001001376376377,
  0x5e45e35e25e10010010010010040010010010010010010010010010010010010010010010015e0005001371,
  0x1001001001001001001001001001001001001001001001001001001001001001001001001001001001001,
  0x1001001001001001001001001001001001001001001001001001001001001001001001001001001001001,
  0x10010010010010010010010015e5001001001001001001001001001001001001001001001001001001001,
  0x10010010010010010010010010010010010010010010010010010015e5001001001001001001001001001,
  0x10010010010010010010015b95b85b75e55e55e55e55e55e55e55e55e5001001001001001001001001001,
  0x5875880010010015875875865855df5de6125c95c86396386376276266146135f85f7001001001001001001,
  0x5b55fd5855905b05af58458f58e6115fc5e95e858d58c58758758758758758758b58758758a587587589587,
  0x5e65ec5eb5ea5a25a15a059f59e59d59c59b59a5996016005ff5fe5985975965bb5955945935cc592591587,
  0x61961861760b60a6096086076065f65f56056045fa5f95fb6036025f45f35f25f15f05ef62b62a5ee5ed5e7,
  0x5bd5bc5ba5b662362263663563463363263163062f62962862e62d62c62162061f61e61d61c61b61a616615,
  0x5a45d35d26105d15d05cf5ce5cd5ca60f60e5a362562460d60c5c75c65c55c45c35c25c15c05bf5be5b25b1,
  0x5765765765765765755dd5dc5db5da5d95ae5d85ad5b45b35cb5d75d65ac5ab5aa5a95a85a75a65a55d55d4,
  0x3b73b63b63b73b24db3af5745733b63b63b63b63b63b14da3ae3b14da3ae3b04d93ad577576576576576575,
  0x3b24db13b13b3b63b613c13c00100100125e0010010010010010013b64e03b613b3b74db3b63b73b23b34db,
  0x3b63b625e25e00800100725e2600013b33b63b63b63b713c13c3b84dc13c13c25f0010013b63af0063b63b6,
  0x3b63b625e3b600125e0063b625e0010010060010010010010010010063ba0062613b60010013b63b63b63b6,
  0x10010010010060010010060010010010010010010060010010010012610010013b63b625e0013b63b63b6,
  0x125e00100100100100100100100100100100100100100100100100100100100100100100600625e25e25e,
  0x100100100100600100100100100100100100100600600100100100100100100100125e001001001001006,
  0x100100100156b56a569568567001001001001001001001001001566001001001001001001001001001001,
  0x56c56c56c00100156c56c56c001001001001001001001001001001001001001001001001001001001001001,
  0x100100100100100100100100100100100100100100100100156c56c56c56c56c56c56c56c56c56c56c56c,
  0x56358356156258358358256156156057257157056f56e56c56d001001001001001001001001001001001001,
  0x100100100100100100d55a00926526426358158100100155c55c55c55c55c26255b561565561564583561,
  0x1101101100100100101001001000100100100100100100100100100f00e00c00100100100100b00a009001,
  0x1001001001001001001001001001001001001001001001001001001001001001001001001001001001001,
  0x1001001001001001001001001001001001001001001001001001001001001001001001001001001001001,
  0x1001001001001001001001001001001001001001001001001001001001001001001001001001001001001,
  0x10010010013bb0010013bb3bb3bb0010013d8266001001001001001001001001001001001001001001001,
  0x3bb3bb3bb3bb3bb3bb3bb3bb0013bb3bb0013bb0010010010010010010010010013bb0010013bb3bb001001,
  0x3bb3bb0010013bb0013bb0010013bb0010010010010010010010013bb3bb0010010010013bb3bb0010013bb,
  0x10010010010010010013bb0010010010010010010010010010010010010013d9001001001001001001001,
  0x13bb0010010010010013d73d400154343a3e70013d93d90010010010010010010010013d9001001001001,
  0x3dd3dd3dd3dd3dd3dd3dd3dd3dd3be0013dd0163da3d53da3d53da3d50120010010013da3d5269268267001,
  0x13db3dd0014e20013d40010013dd3dd3dd3dd3dd4123dd3dd3dd3dd3dd3dd3dd3dd3dd3dd3dd3dd3dd001,
  0x3dd3c13d53c03d53bf0010010010010010010010010010010013d50010013d5001001014013012001001001,
  0x3de3dd3dd3dd3dd3dd3dd3dd3dd3dd3dd3dd3dd3dd3dd3dd3dd3dd3dd3dd3dd3dd3dd3dd3dd3dd3dd3dd3dd,
  0x13f13ea4e33e83e93dd3dd3dd3dd0010010010010010010180013e53670013bb0010170013de3de55e015,
  0x10010010010010010010010010010010010013680013dd0013fa3dc3d60013f83eb4e4001001001001001,
  0x1001001001001001001001001001001001001001001001001001001001001001001001001001001001001,
  0x1001001001001001001001001001001001001001001001001001001001001001001001001001001001001,
  0x1001001001001001001001001001001001001001001001001001001001001001001001001001001001001,
  0x155f0010010010010010013680010010010013680010010010013680010010010010013dd001368001001,
  0x3bb3bb3bb3bb3bb3bb3bb3bb3bb3bb3bb3bb3bb3bb3bb3bb3bb3bb3bb3bb3bb3bb3bb3bb3bb3bb3bb3bb3bb,
  0x13c23ec0013bb0010013bd36636600155d3bc0010013dd0010010010010010010013bc001001001001001,
  0x10010013bd3dd0010010010015590010010010013bd0013bd3dd0013c30010013bd001001001001001001,
  0x10010010010010013bd0010010010010010010010010010010010010010013f03ef3ee3e83ed3bb001001,
  0x10010010010013f93d60010010010013f73f63f53f43f33f20010010010013bd3bd3bd3bd3bd001001001,
  0x4090014084074064054044033bd3bd3bd3bd3bd3bd0010014024014003ff3fe3fd3fc3fb0013bd3bd3bd001,
  0x100100100100100100100136936900100140c00100100100100100140b0010010010013bb40a001369369,
  0x13c13c00100113c13c00100113b13b369369001001369369001001369369001001001001001001001001001,
  0x3dd3dd3dd3dd3bd3dd3dd3dd3dd3dd3dd3dd3dd3dd3dd3bd3dd3c53dd3dd3dd3dd3dd3dd3c413c13c13c13c,
  0x3bb3bb3bb3bb3bb3bb3bb4103bd40f3bd3bd40e3bd40d3dd3dd3dd3dd3ca3c93c83c73c63dd3bd3dd3dd3dd,
  0x3bd3bd3bd0010013bd3bd3bb3bb3bb3bb3bb3bb3bb3bb3bb3bb3bb3bb3bb3bb3bb3bb3bb3bb3bb3bb3bb3bb,
  0x3690014090013dd4143bb3bb36b3dd3ef3ee4134113bb5553ec00136655800136a3dd3bd3bd3bd3bd0013bd,
  0x13690010010010013690010010010010010013690013690014084054034003fb40c3f64163f240b3ed40a,
  0x3bb3bb3bb3bb3bb3bb3bb3bb3bb3bb3bb3bb3bb3bb3bb3bb3bb3bb3bb41040f40e40d3dd3dd001001001001,
  0x3bb3bb3bb3bb3bb3bb3bb3bb3bb3bb3bb3bb3bb3bb3bb3bb3bb3bb3bb3bb3bb3bb3bb3bb3bb3bb3bb3bb3bb,
  0x41441500100100136d36d00e41141200136a3bb3bb36c36c0010010013bb3bb3bb3bb3bb3bb3bb3bb3bb3bb,
  0x3bb3bb0010010010010010010010010010010010013bb0010010010010014194e74184e60010010014174e5,
  0x3bb3bb3bb3bb3bb3bb3bb3bb3bb3bb3bb3bb3bb3bb3bb3bb3bb3bb3bb3bb3bb3bb3bb3bb3bb3bb3bb3bb3bb,
  0x42542442342242142041f41e41d41c41b41a36d36c36c13b13b36c3df0013bb3bb3bb0013bb3bb3bb3bb3bb,
  0x100100100100100100136c0010010010010013bb13c13c00113c13c13c13c13c13c13c13c429428427426,
  0x100100100126a001001001001001001001001001001001001001001001001001001001001001001001001,
  0x142b001001001001001001001001001001015001001001001001001001001001001001001001001001001,
  0x4163f242d4123ed42c42a00142e42d42d4e800100142c42c3e642a42a42a017001001001001001019019001,
  0x4ec4eb4ea57936a57843440c40b40a40943341040f40e40d26b43240843140540343040042f3fb42e3f64e9,
  0x4364163f33dc3f04354133e842c3e542a00136c5795785804ed4ed4ed4ed4ee57957f4ed4ed4ed4ed3db3f1,
  0x4164144143f242d3ef43c43b4134114113ed42c4393ec42a36c0010010010010014ed4024014383f93f7437,
  0x40544f44e44d44c40343040044b44a44944844744644544444342f41b41b3fb42e3f644244144043f43e43d,
  0x100100100100100100100100100126d26c25e01a43440c40b40a4093ee43341040f40e40d3d6432408431,
  0x509001001006508001001001001001001001001001001001001001001001001001001001001001001001001,
  0x100100100100100100100101c00126f26e25f00100100100100100100100100100100100100100601b556,
  0x272271270001001001001001001001001001001001001001001001001001001001001001001001001001001,
  0x1001001001001001001001001001001001001001001001001001001001001001001001001001001001273,
  0x127e27d27c27b00127a279278277001276275274008001001001001001001001001001001001001001001,
  0x4534524514d249700128a0064504d149600128700149555700100100100128628528428300128228128027f,
  0x14bd50228928828f28e28b28d28b28c28b01d00828b45f45e45d45c45b49945a459458457456455498454,
  0x100100100100100100100101f01d01e0014c64c54c44c34c20010014c10010014c00010014bf4be001001,
  0x1001001001001001001001001001001001001001001001001001001001001001001001001001001001001,
  0x4614d449c4c82904c74604d349b00749a01c5045574ef503001001001001001001001001001001001001001,
  0x10010010010014d04cf46f4ce4cd46e46d46c46b49e4cc4cb46a46946846746646549d4ca4c9464463462,
  0x10014f02904f047254547054926d26c25e50750600e50513c13c13c13c13b02001e001001001001001001,
  0x100100100100100100100100100100100100100100100100100100102000100100100100100100100e001,
  0x1001001001001021001001001001001001001001001001001001001001001001001001001001001001001,
  0x29229147100154452d52c52c4f152b52b00654854c54754b54654a001001001001001001001001001001001,
  0x15314f553052c52b00601c52c52b4f44f352f4f252e0010010010010014744730010010010010014f0471,
  0x2972965384f64f64f654e54d2950015372942935360010015355340015334f64f64f84f64f74f600153213b,
  0x2b32b22b12b02af2ae2ad2ac2ab2aa2a92a82a72a62a52a42a32a22a12a029f29e29d29c29b29a471299298,
  0x113c13c00113c00100100113c4764752c52c42c32c22c12c02bf2be2bd2bc2bb2ba2b92b82b72b62b52b4,
  0x1001001001001001001001001001001001001001001001001001001001001001001001001001001001001,
  0x4f64fa4f653b53a4f953900113c001001001001001001001001001001001001001001001001001001001001,
  0x4f64f64f65014f65004f64ff4f64f65424f64f64fe4f64fd4f64fc5415404f64f653f53e53d53c4f64f64fb,
  0x100100102202200100100151251151050f50e00100100150d50c50b01750a33c54f4722922c64db01c4f6,
  0x2c800100129437937a4db3e03794dd0010015500014dc33e33d33c33d55433d55333d55233d5512c7001001,
  0x51b51a3e304c5192cc51800151737a5165153e10012cb5142ca4e04e14de00100137b0012c94773b237b513,
  0x2e12e02df2de2dd2dc2db2da0250242d92d82d72d62d52d42d32d22d12d02cf51e0232ce2cd51d51c001019,
  0x2fd2fc2fb2fa2f92f82f70262f62f52f42f32f22f12f02ef2ee2ed2ec2eb2ea2e92e82e72e62e52e42e32e2,
  0x31a31931831731631531431331231131030f30e30d30c30b30a3093083073063053043033023013002ff2fe,
  0x33733633533433333233133032f32e32d32c32b32a32932832732632532432332232132031f31e31d31c31b,
  0x3b03a03903803703603503403303203103002f02e02d02c02b02a029028001001001027001001027339338,
  0x3d13cd5295285275265250013d05245235225213cc52033a4783b851f3cb00100102200100100100103d03c,
  0x10010013b337b0013793cc00100100100100100100100100137d37c4dc4df3cf3d33ce3d23e23e43cd52a,
  0x38000138134403f26033f00138003e34347b37e37f00134234147a34033f37e3b23b426147933b37b379001,
  0x4810480473830010010460454a004449f04348004247c38234500108800100100104104047f47e3ba47d47c,
  0x584a60574840560554a50540534830520513854a44a305004f48204e04d38400104b0464a20464a104a049,
  0x104605d4a905c4a805b26034733f3b83b934600100100100100100100100100100100100100105a4a7059,
  0x6906806704604606606506404604606306206104604606005f05e0014ad4ac4ab0010010464aa001001001,
  0x48500100106c06b2614d538037e26138037e3b33b538d38c38b38a00100100138938838738626106a046046,
  0x7339148800147934a00100100100107239048734900100107107038f38e00106f06e06d486261001348001,
  0x7839600147a47907715f00100100100100100100100107639534b001075001001001001394393392074001,
  0x48a00100100139947a00100100100100134b00100100100107b07a079489001001001001001001398397001,
  0x4b000108a08948b39a0870010010010010010010010010014af08608508408308208108007f07e4ae07d07c,
  0xa70a60a50a40a30a20a10a009f09e09d09c09b09a09909809709609509409309209109008f08e08d08c08b,
  0xb40b30b20b10b00af0ae0ad0ac4b20ab0aa48c00100100139b0010010010010010010010014b10010a90a8,
  0xd10d00cf0ce0cd0cc0cb0ca0c90c80c70c60c50c40c30c20c10c00bf0be0bd0bc0bb0ba0b90b80b70b60b5,
  0x100148d39c0010010010010010014b30010e20e10e00df0de0dd0dc0db0da0d90d80d70d60d50d40d30d2,
  0xff0fe0fd0fc0fb0fa0f90f80f70f60f50f40f30f20f10f00ef0ee0ed0ec0eb0ea0e90e80e70e60e50e40e3,
  0x4b400111a11911811711611511411311211111010f10e10d10c10b10a109108107106105104103102101100,
  0x12f12e12d12c12b12a12912812712612512412312212112011f11e11d11c48e11b001001001001001001001,
  0x10010010010010010010010010010010014b60011391381371360010010014b5001135134133132131130,
  0x1001001001001001001001001001001001001001001001001001001001001001001001001001001001001,
  0x1001001001001001001001001001001001001001001001001001001001001001001001001001001001001,
  0x1001001001001001001001001001001001001001001001001001001001001001001001001001001001001,
  0x113e47934e13d34d13a34c4d6001001001001001001001001001001001001001001001001001001001001,
  0x34b35334b35235114234b14135034f4bc4bb4ba4b90010014b800100147a4b700100114047a47916013f34b,
  0x47a3ac47a4793ab4792613aa3a94942614933a83a73a63a53a43a33a23a13a039f49239e49139d49026148f,
  0x14b4d715215135515000114a14914f14e14d14d00100135414c14b14a149148147146261001145144143001,
  0x100115b15b15b4d815a15900115800100135715415700115600115215535600125e26115415314d001001,
  0x15200126715214d14d16714a14916616516400116316216100100100115d15c00100100100115e15b15d15c,
  0x14916f16e00100100127414a14916d16c00100100126314a14916b16a00100100125f14a149169168001001,
  0x100136336200100100100100136136035f35e35d35c35b35a00400400135925e35826114a14917117014a,
  0x100118200118100100136418017f17e17d14f17c14817b00117a179178177001176175174173001001172,
  0x114f18a18918818700100117d17d14f00100118618500100100100117a17917917a17a179184183001001,
  0x18e19319218b00115814f19119018815800118f00118500100100100100100100118e18d18c00118b001001,
  0x1001001001001001001001197197152196001001001001001001001001001001001001001195001001194,
  0x1001001001001001001001001001001197001001196001001001001001001001001001001001001001001,
  0x1001001001001001001001001001001001001001001001001001001001001001001001001001001001001,
  0x1001001001001001001001001001001001001001001001001001001001001001001001001001001001001,
  0x1001001001001001001001001001001001001001001001001001001001001001001001001001001001001,
  0x1001001001001001001001001001001001001001001001001001001001001001001001001001001001001,
  0x1001001001001001001001001001001001001001001001001001001001001001001001001001001001001,
  0x1001001001001001001001001001001001001001001001001001001001001001001001001001001001001,
  0x1001001001001001001001001001001001001001001001001001001001001001001001001001001001001,
  0x1001001001001001001001001001001001001001001001001001001001001001001001001001001001001,
  0x1001001001001001001001001001001001001001001001001001001001001001001001001001001001001,
  0x1001001001001001001001001001001001001001001001001001001001001001001001001001001001001,
  0x1001001001001001001001001001001001001001001001001001001001001001001001001001001001001,
  0x1001001001001001001001001001001001001001001001001001001001001001001001001001001001001,
  0x19a199198001001001001001001001001001001001001001001001001001001001001001001001001001001,
  0x14f1a31a20011a100100100114f1a019f18819e17d14f18517917a17a17900119d17d14f19c16619b17a179,
  0x11ab00114f1aa1a919600100100100115814f0011a800114f1a71a61851791791a51791a4197197196158,
  0x53651b41b31b21b115814f14f1b015814f14f1af19600100100100115814f0011ae14f1ad1ac19615814f,
  0x1c21c10010010010011c01bf0011be1bd0011bc0010011bb1ba1b91b81b70010051b60010011b5187001187,
  0x1cf1ce1cd1cc1cb0011ca1c90011c81c70280010010010011c60011c50010010010010010170010011c41c3,
  0x10010011d61d500102b0010290010010010010011d40011840011d30010010010010011d21d11d0001001,
  0x2c0010010010010011e31e21e10010011e01df0011de1dd0010010011dc1db0010010011da0771d91d81d7,
  0x1f21f10011f01ef0011ee0011ed1ec0010011eb0010010010011ea1e91e80010011e71e61e51e400102d001,
  0x4a0491fc0350010340011fb0010010011fa1f91f81f70430011f61f50011f41f3031001030001001001001,
  0x5420d05303c00103b00120c20b20a20920820720620505004f0390010380012042032022012001ff1fe1fd,
  0x100100100e00100121421321221121000100100100100100100100100100100100105700103d00120f20e,
  0x22622522400122322222100100100122021f21e04404221d00100121c00100121b21a219218217216215040,
  0x23405a05905805605505205123323223104e04d23022f22e22d22c00100100100122b22a229228048047227,
  0x100100100100100100100100100100100100123a239001001001001238001237001001001236001001235,
  0x25024f24e24d24c24b24a24924824724624524424324224124023f23e23d23c23b001001001001001001001,
  0x100100100100100100100100100100100100100100125c25b25a259258257256255254253252251001001,
  0x1001001001001001001001001001001001001001001001001001001001001001001001001001001001001,
  0x1001001001001001001001001001001001001001001001001001001001001001001001001001001001001,
  0x1001001001001001001001001001001001001001001001001001001001001001001001001001001001001,
  0x1001001001001001001001001001001001001001001001001001001001001001001001001001001001001,
  0x1001001001001001001001001001001001001001001001001001001001001001001001001001001001001,
  0x1001001001001001001001001001001001001001001001001001001001001001001001001001001001001,
  0x1001001001001001001001001001001001001001001001001001001001001001001001001001001001001,
  0x1001001001001001001001001001001001001001001001001001001001001001001001001001001001001,
  0x1001001001001001001001001001001001001001001001001001001001001001001001001001001001001,
  0x1001001001001001001001001001001001001001001001001001001001001001001001001001001001001,
  0x1001001001001001001001001001001001001001001001001001001001001001001001001001001001001,
  0x1001001001001001001001001001001001001001001001001001001001001001001001001001001001001,
  0x1001001001001001001001001001001001001001001001001001001001001001001001001001001001001,
  0x1001001001001001001001001001001001001001001001001001001001]⟩

/-- The tokens that are looked for in each state. -/
def lexMode : Packed := ⟨5994, 5, 70, #[
  0x6318c63084210842108c2108421084210842108c21084210842108421084210842108421084210842110820,
  0x8421084210842108421084210842108421063190642108320c6421084190842108108421084210842108463,
  0x21084211084210842104220842208422108a5294a5294a318c6318c6318c64210842108420c842108421084,
  0x21084212102108484084210842108425284a5294a5294a5294a5094a5294a52942108421084a52942108421,
  0x210842108421084210842108421084210842108421084210842108421084210842108421084210842108421,
  0x210842108421084210842108421084210842108421084210842108421084210842108421084210842108421,
  0x210842108421084210842108421084210842108421084210842108421084210842108421084210842108421,
  0x210842108421084210842108421084210842108421084210842108421084210842108421084210842108421,
  0x210842108421084210842108421084210842108421084210842108421084210842108421084210842108421,
  0x421084210842104210844208442108421084221082108421108408421084210842108421084210842108421,
  0x210842108421084c10884210842108210884210842084210842110842108421042209082108421084210842,
  0x210842108421084210842108421084210842108421084210842108421084210842108426318c10842108421,
  0xc60842108421084210842108421084210842130421084210842108421084260842108421084210842108421,
  0xc6318c6318c6318c6318c6318c6318c8420c631cc6318c6318c6318c6084210842108421084c6318c6318c6,
  0xc6318c6318c6318c6318c6318c6318c6318c6318c6318c6318c6318c6318c6318c6318c6318c6318c6318c6,
  0xc6318c6318c6318c6318c6318c6318c6318c6318c6318c6318c6318c6318c6318c6318c6318c6318c6318c6,
  0x42208442084421044210842088210882108441084211049488421084410882110494a5294a5294a526318c6,
  0x420844210882108421084210842108421084208882088421084210842108420904210842108821088410842,
  0x421084210842108421104210842108421084210841108421084208841108422084210842108421084210841,
  0xc6318c6318c63084631842108421084210842108821084210846318c6108421084211844208422104210842,
  0xa52842528421084a1318c6098c131821098c6318c6318c210842108421084210842108421084210842318c6,
  0xa5294a5294a5294a5294a5294a5294a5294a5294a5294a5294a5294a5294a5294a5294a5294a5294a529425,
  0xa5294a5294a5294a5294a5294a5294a5294a5294a5294a5294a5294a5294a5294a5294a5294a5294a5294a5,
  0xa5294a5294a5294a5294a5294a5294a5294a5294a5294a5294a5294a5294a5294a5294a5294a5294a529425,
  0xa529421294a5294a5294a10942109421294a5294a5094a5294a5294a5294a5294a5294a529425294a5294a5,
  0xa5294a5294a5094a12a8a5294a5284a509425294a529425294a5294a5294a5294a5294a5294a52942108421,
  0xa5294a508421094a5294a5294a508425294a529425294a5294a5294a5294a5294a5294a5294a5294a1284a5,
  0xa5294a5294a5294a5294a5294a5294a5294a5294a5294a5294a5294a5294a5294a5294a5284a52842128421,
  0xa1294a529425294a1294a5094a5294a5094a5294a5294a5294a5294a5294a5294a5294a5294a5294a5294a5,
  0xa5294a529545294a5094a529421284a5294a5294a5294a5294a5294a5294a5294a5294a5294a5294a5294a5,
  0x21294a508421084a5294a5294a5294a5294a5294a5294a5294a5294a108421294a5294a5294a5094a5294a5,
  0xa5294a5294a5294a528425284a5294a5094a5294250842508421084a5294a52942108421084a5294a5294a5,
  0xa509425294a5294a5294a5294a5294a5294a5294a5294a5294a529421084212942129421084a5084aa084a5,
  0x2108425284a509421084a109421284a5294a5294a5294a5294a5294a5294a5294a5294a5294a5294a5284a1,
  0xa5294a5294a5294a5294a5294a5294a5294a5294a108425294a529425294a1294a52942a094210842108421,
  0xa5284a1284a5294a5084a10842529421084a528425084a129421294a5294a5294a5294a5294a5294a5294a5,
  0x21084210842108421084210842108421094a5294a5294a5294a5294a5294a5294a5294a5294a5294a5294a5,
  0xa5298a5318c6318c6318c6318c6318c1318c6318c6318c6318c6318c6318c6318c6318c1314a52942150421,
  0x2108421084210842108421084210842108421084210842108421084210842108425318c63042630421294a5,
  0x210842108421084210842108421084210842108421084210842108421084210842108421084210842108421,
  0x210ad0842108421084210842108421084210842108421084210108421084210842108421084210842108421,
  0x108084210842108421084210842108421084210842108421084410842108421421010842108428421080850b,
  0x2b0842108421108420842110421088210844108422421014210842108421084210842108421084210842108,
  0x10108421084284210808421084210842108421084210842b0842108421084210842108421084210842108421,
  0x21084210842108421084210842108421084215842b421084210842108421084210842108421084210842108,
  0x21084210842108421084210842108421084210842108581621085ac2b084210842108421084210842108421,
  0x210842108421084210842c0842b0842c6318c60428084210850842108404210842108421084210842108421,
  0x210842108421084210842108421084210856b5842108421084210842b5ad6b5842108561084210856b0ac21,
  0x210842108421084210842108421084210842108421084210842108421084210842108421084210842108421,
  0x16b5ac210ad6b0ad81084e10ad6b5ad6b5ad6b0ad6b5ad6b0856b084215ad6b5ac2158421084210842108421,
  0x210842818421084210a16108421084210846108421084210a021084210b18c60581605813a108084210ad6b,
  0x210842108421084210842108421084210842108421084210842108421084210842108421084210842108421,
  0x210842108421084210842108421084210842108421084210842108421084210842108421084210842108421,
  0x181084216042108421084280842108421084210a108421080a101084210a0210850108c21404210842108421,
  0x2108421084210842158c2108421084215842108421084210ac615842108421084210842c584210842108427,
  0x21084210842108421084210842108421084210842108421084213b021604210842108421084210842108421,
  0x1816042c084210842108421085811058b604216042108421084210a0ec084210842108421084210842108421,
  0x2108421185610842108421084210842108421084210858c5ad810842108421084210842108581084216318c,
  0x210842108421084210842108421084210842b08421084210842108421084210842108421084210842108421,
  0x210842108421084210842108421084210842108421084210842108421084210842108421084210842108421,
  0x210842108421084210842108421084210842108421084210842108421084210842108421084210842108421,
  0x210842108421084210842b08421084210842108421084210842158421084210842108421084210842108421,
  0x2c084220b02708c610ad6b5ad6b5ad6b5ad6b5b18c6318c6318c6318c604210842108421084210842108421,
  0x210b9a1084280b9a8084210842108421084210842108421084210b18c61c2c0b0e108421084210842108421,
  0x21085cd084280b9a10860f0842108a0f084421060f084210842c13021084210842108421084217342108421,
  0x21084210842108421084210842108421084210842e6b9ae6b9a10842e6b9a10842e6b9a10842e6b9a108421,
  0x410842108421084210842108421084410842108421084210842108421084210842108421084210842108421,
  0x210842108421084210844c08421084210842108421084210842108421084210842108421084210842108421,
  0x210842108421084210842108421084210842108421084210842108421084210842108421084210842108421,
  0x210842108421084210842108421084210842108421084210842108421084210842108421084210842108421,
  0x210842108421084210842108421084210842108421084210842108421084210842108421084210842108421,
  0x210842108421084210842108421084210842108421084210842108421084210842108421084210842108421,
  0x210842108421084210842108421084210842108421084210842108421084210842108421084210842108421,
  0x210842108421084210842108441084210844108421084210842108421084211084210842084210842108421,
  0x210842108421084210842108421084210842108421084210842108421084210842108421084210842108421,
  0x210842108421084210842108421084210842108421084210842708421084210842108421084210842108421,
  0x210842108421084210842108421084210842108421084210842108421084210842108421084210842108421,
  0x210842108421084210842108421084210842108421084210842108421084210842108421084210842108421,
  0x210842108421084210842108421084210842108421084210842108421084210842108421084210842108421,
  0x210842108421084210843108421084210842108421084210842108421084210842108421084210842108421,
  0x210842108421084210842108421084210842108421084210842108421084210842108421084210c82108421,
  0x210842108421084210842108641084210842108421084210842108421084210842108421084210842108421,
  0x21084210c821084210842108421084210842108421084210842108421904210842108421084210842108421,
  0x210842108421084210842108421084210842108421084210c82108421084210842108421084210842108421,
  0x210842108421084210842108421084310842108431084210843108421084210842108421084210842108431,
  0x842108421084210842108421084210842108421084210842108421]⟩

/-- The context tokens that are looked for in each state. -/
def contextMode : Packed := ⟨5994, 4, 88, #[
  0x4222222222222222222222222222222222222222222222222222222222222222222222222222222222223321,
  0x4432222222222223333333333233333333333333334443333333344444343444222323333232233333233344,
  0x2222222224454444444444444424444444442222222244442222222222223333334332232223222443333334,
  0x2222222222222222222222222222222222222222222225222222222222222222222222222222223322223322,
  0x2222222222222222222222222222222222222222222222222222222222222222222222222222222222222222,
  0x2222222222222222222222222222222222222222222222222222222222222222222222222222222222222222,
  0x2222222222222222222222222222222222222222222222222222222222222222222222222222222222222222,
  0x4333334444444442222244224444444444444444444444222222222222222222222222222222222222222222,
  0x2222222222222552222255555555555255222333333333222333333355555522443344333554233334444434,
  0x2222222222222222222222222222222222222222222222222222222222222222222222222222222222222222,
  0x2222222222222222222222222222222222222222222222222222222222222222222222222222222222222222,
  0x2222222222222222222222222222222222222222222222222222222222222222222222222222222222222222,
  0x4444444222222222222222222222222222222222222222222222222222222222222222222222222222222222,
  0x3323342333333333434334234334444444443334333444433443333333333333444444444434444223333344,
  0x3444334443444434333443424444443424424443333344444333333344323422343333333333334433433333,
  0x3333222222222222222332223333333333433333333433444222223333333332333334334333443333333443,
  0x3333333333333333333433332333355442222232222252252255522222222223333333333333333333333333,
  0x3333333333333333333333333333333333333333333333333333333333333333333333333334333333444333,
  0x3333333333333333333333333333333333333333333333333333333333335434333333333333333333333333,
  0x3344555555444455444433344335545554553334433353333333333333333333333333533333333333333333,
  0x4444444444444444444444353534433433334354454344443335445454444444544444444444444444444444,
  0x4444444444444444444443344444444444424445553555444433555554444444444455243444442444444444,
  0x3324433234432444334324444444444444444444444444444444444444444444444444444444444444444444,
  0x4444244443434434434444444354333322423444444444433444433333333333333333333333333333424444,
  0x5555333333445555555533334444445544435555553333333334444444443444444444444445555534333334,
  0x4344444444443434444443555555335544552233224422444444443334344342244544443454444354225355,
  0x5445332455553253223243333433333333333333333333333333333333333335353353544443333343444444,
  0x3333333333333333333333333333333333333333333333355554433344233342333443232455555555555525,
  0x3333333333333333333333333333333333323232333333553555533355553332235532332233333333333333,
  0x5555525555555555555555555555555555555253333322322222222555555555555555522222233333433333,
  0x2222222222222222222222222222222222222222222222222223222222222222333333353355555555555555,
  0x2222222222222222222222222222222222222222222222222222222222222222222222222222222222222222,
  0x2222222222222255522222222222222222552222222222222222222222222222222222222222222222222222,
  0x2222222222222222666555555555555555555555555555555555552222222222222222222222222222222222,
  0x5555555555555555625555522522522552225222225252555555555555555555555552525552225222222222,
  0x6555555555555555555555555555555555555555555552522222666666666666666666666666666666666655,
  0x6666666666666655555555555555555555555555555555555555555565555555555525227272222222555556,
  0x5555552555522222252255222222222222222222222222222222266666556656522552272222222777777666,
  0x6666666666666666666666666666666666666666226266626655555555555555555555555555555555555555,
  0x8282828222222255622222225552222282252222222222222222222222222222222222222222626666666666,
  0x5555555555555555555555555555555552555222222222525222222222222552222222222522222222222888,
  0x5555555255255555555555555555555555555555555555555555555555555555555555555555555555555555,
  0x2222822222822222222222222222222222222222222222222222222222222225555555555555555555555555,
  0x2222555566666266262662662662226626622252526626622255262626222222225622222222222822222222,
  0x9225222255522227222552222222222222222222222555525555255552555522222225222225525222282282,
  0x5555255555555525525222227722922555552222255225627222227777727629552222222556227222727622,
  0x5555555555555555555555555552552555225555555255555555555555555555555555555555255522252555,
  0x5555555555555555555555555555555555555555555555555522555555255555555555555555555555555555,
  0x2555555555566625555522556555555525555555525555555555555555555555555552555555552555555555,
  0x2225522222222222222227777777777777777555555555555555555555555555555555555555525555555555,
  0xaa225522255aa255225aa2222222222222222222222222222229999269692222255255225562226956226922,
  0x2aaaa2222aaaa2222aaaa222222555aa25525aa2222222252222222222222222222828222222225255222226,
  0x22522222222255222222222222252222222222222222222222552222222222222222222222222aaaaaaaa222,
  0x5555555229255555555555555555555552222222225555555522522222522222222522555255222225222222,
  0x5555555555555555555555555555555555555555555555555555555555555555555555555555555555555555,
  0x5555555555555555555555555555555555555555555555555555555555555555555555555555555555555555,
  0x5555555555555555555555555555555555555555555555555555555555555555555555555555555555555555,
  0x5555555555555555555555555555555555555555555555555555555555555555555555555555555555555555,
  0x2222222222222222222222222222222222255222222222222222222222222222222222555555555555555555,
  0x2222222222222222552225525222222225555222222255222222222222222222222222222222222222222222,
  0x5222222222222222222222222222222225222522222222222222222222222222222222552552525222222222,
  0x2222555222222225552222222222222222222222222222222222222222222222222222222222222222222222,
  0x2222222222222222222222222222222222222222222222222222222222222222222222222222222552222222,
  0x2222222222222222222222222222222222222222222222222b22222222222222222222222222222222222222,
  0x2222222222222222222222222222222222222222222222222222222222222222222222222222222222222222,
  0x2222222222222222222222222222222222222222222222222222222222222222222222222222222222222222,
  0x222222222222222b222222222222222222222222222222222222222222222222222222222222222222222222,
  0x22222222222222222222222222222222222222222222222222222222222b2222222b2222222b222222222222,
  0x2222222222]⟩

/-- The base of each row of actions. -/
def actionBase : Packed := ⟨4170, 13, 27, #[
  0x3c01e017007803c01e00f007803c01e00f0010014008002001000800400700100080040020010000000000,
  0x3c01e00f007803c01e00f007803c01e00f007803c01e026007803c01e00f007803c01e00f00e003c01e00f,
  0x13c09c04d007803c01e00f007803c01e00f007803c01e00f007803c01e00f007803c01e039007803c01e00f,
  0x19c0d2068033803c01e00f007803c01e00f00781780ba00f007803c01e00f007803c01e00f007803c01e04d,
  0x2800600f007803c01e00f007803c01e00f00781e40f000f007803c01e00f007803c01e00f007803c01e00f,
  0x248124092049024812409204902481240920490248124092047823c11e0020120220110088044022004600c,
  0x24817409205c02dc12409205902c81640920490248124092049024812409204902481240920490248124092,
  0x24812409204902481240920490248124092049024812409204902481240bb05d82481240c00490248124092,
  0x248124092049024812409204902481240920490248124092049024812409204902481240920490248124092,
  0x24812409204902481240920490248124092049024812409204902481240fa04903e01ee0920490248124092,
  0x248124092049024812409204902481240920490248124092049024812409204902481240920490248124092,
  0x248124092049024812409204902481240920490248124092049024826209204902481240920490248124092,
  0x24812415b049024812409204902481240920490248124092049024812409204902481240920490248124092,
  0x24812409204902481240920490248124092049024812409204902482c0160049024812409204902482be092,
  0x248124092049024812409204902481240920490248124092049024812409204902481240920490248124092,
  0x248124092049024812409204902481240920490248124092049024812409204902481240920490248124092,
  0x248124092049024812409204902481241b70db824812409204902481240920db02483681b3049024835e1af,
  0x248124092049024812409204902481240920490248124092049024812409204902481240920490248124092,
  0x24812409204902481240920f887c412409204902481240920f802481240920f587ac1240920f4079c124092,
  0x2a41500a705582a812409204902481240920490248124092049024812409204902481240920490248124092,
  0x3c01d20dc06482f012409204908b44580920490248124092049024812409204908844400920490248124092,
  0x248124092049024812409212489201240920490248124092049024812409204902481240920490248124092,
  0x9ac4d4092049024812409204902481240920490248124092049024812409204902481240920490248124092,
  0x9f84fc27e13f09f84fc27f13f89f81240920490248124092049024812409213909c812409204902484d626c,
  0xa4053629f1480a7453629b1480a405202901480a405202931480a4052028213f09f84fc27e13f09f84fc27e,
  0xa405202901480a2050e2901480a405202901480a1850a2901480a105562901480a9c54e2a61480a0c520290,
  0xa405202901480a405202901480a405202901480b2c52028f1470a3452028c1458a405202901480a28512290,
  0xbc85202f01480a405202901480a405202901480a405202e41480b885202901480a405202901480a405202d8,
  0x24812430a1850c2412409204909f85202901480a405202901480bf45202901480a405202901480a40520290,
  0xc9c64e3261890c9064632218c0c486243121890c486243121890c606243121890c48624312153824861e30e,
  0xd0c1243401a00cfc12409219d8cec624092049024812409204902486243121890c486243121890c9c64e327,
  0x3e06243121890c481243121ab82481243531a98d481243431a18d0c6863431a18d0c6863431a18d0c686343,
  0xdb46f03771b68db46e43721b90db46da36d1b68db46d636b1af8d7c6be35f1af8d7c6c835f1b10d7c6be35f,
  0xdb46da36d1b68db46da36d1b68db46da36d1b68db46da3861c28db46f637b1b68db46da36d1b68db46da37a,
  0xdb46da36d1b68db46da36d1b68db46da36d1b68db46da36d1b68db46da36d1b68db46da36d1b68db46da36d,
  0xdb46da36d1b68db46da36d1b68db46da36d1b68db46da36d1dd8db46da36d1b68db46da36d1b68db46da36d,
  0xdb46da36d1b68db46da36d1b68db46da36d1b68db46da36d1b68db46da36d1b68db46da36d1b68db46da36d,
  0xfe07ee3f61fa8fd07e83f41fa0fd07e83f41fa0fd07e43f11f88fc07de35f1de0db46da36d1b68db46da36d,
  0x1048824412209104882441220910488243c52080d7c7fa3fc1fd8fe87f23f81fb8fd87ea3fd1fe0fec7f43f9,
  0x1048824434209104882441220910488244122091048846425212909484a42121090488424122091048824412,
  0x1048824412209104882441220910488244122091048824412209104882441220910488244122091048824412,
  0x11b08d646a1af90487a43d1209104882441220910488ba45d22e917082441220910488244122091048824412,
  0x121c6be35f1af8d7c6be47d24011fc8fc47d1af91ec8ea0b40d88dd08ec4750f68d7c6be35f1af8d7c6be46d,
  0xd7c6be4a024f927893a35f24d92689324981af8d7c92a49424992486be49023a8c486be35f1af9228912488,
  0x12f401e4bb00792e401e4b700792d401e00f259003c01e00f00780e80044ab25512a495035f25312949484a3,
  0x13607e809804b935094c09804b83501a63f326692009944ca236826012e09804b93049844c21920248124092,
  0x13b49da4ed27693b49da4ed27613909c84e427213909c84e427213889c409227002cc9bc31a26d936c9b24d8,
  0x142ca1650b28593b4a085042821410a0850427693b49da4ed27693b49da4ed27693b49da4ed27693b49da4ed,
  0x14a0a5052529314949c84e428e9474a3a51d28e94749c84e4285942ca1650b285942ca1650b285942ca1650b,
  0x1488a8654223f150012409229e8248a7609204914e012409204914d01244e227413a0a5e4e827213909c84e4,
  0xdb4abc3812358db46da31a18e0c6caac2a02aa0a80aa42a02a8031862451d2a60dcca7c5411481488a44545,
  0x1e497a57803412ec97205e25b92d4ae204e2590fb893c5682b595a0ad20ff07b9378aca36d1b695886da36d,
  0x1578b1055c2c90318afa092013124c93258b2a59624a945842c312207dc0c02be9604afa57f2be95f4af856c,
  0xa70b5e4122138fb8ada5aa06315b4b4c5a60001558aa85522bf84b825012c08b04909c41072549290aa8596,
  0x1728b925c92da1708b805be2de16e8b765ba2dd96e8b765ba2dd96e8b745b72db96dcb685b42da16c4b625b1,
  0x17980085e40ae1778bbc5de2ef17780005db2ed96c4ba65d12e79734b965c92e51724b945c92e51724b945c9,
  0x1804a165e804917f41245fb0d817d4bea5f52fa97d4b885f304917a8bd45ea2f517a8bd45ea2f50000124525,
  0x1790a520922f49790c2e004049185012461030887b012460e3009830c0260a3009820c026063009804c02601,
  0x18c8c6462d31918b0c6462b31498a4c5262931498a4c5262918913b4c4c4ed276988c2d452a049187c12461b,
  0x1948c5262932798a8c9a62a3221910c826443209910c866413211908c8262b31918c4c6463031918bcc6462e,
  0x1988cc46623311988cc46623311988cc466233118a4cac65632b1958cac65632b1958cac65632b18a4ca4652,
  0x1a04d026813409a04d026813409a0061067433a19d0ce867433a19d0ce867433a19d0c526623311988cc4662,
  0xcec9da4ed27693b49da4ed34e02e46243122769a58d2c51d2769a00d006803401a34d1a68d3409a04d02681,
  0xa405202901480a405202901480a405202901481ac84642901480a405206ac3541aa4d526a81398a401246a4,
  0x1b40da06d03681b40da06d03681b40da030f22e9b0cd886c43621b10d886c43621b10d886c31891390464290,
  0x1bd0de26f13789bb4dda6ed3769048dd62903748a40dce2903728a409c86e20021b802c042f36e90bc8ba6d0,
  0x1c04e027013809c04e027013841c04e027013809c04e0270137f1bf4dfa6fd2721bc4de26f13789bc4de26f1,
  0x1c04e027013809c04e027013809c04e027013809c24e027013809c04e027013809c04e027013809c04e22710,
  0x1d14dfe7013809c04e027013809c04e027013809c04e027013809c04e027013809c04e027013809c04e02701,
  0x1d60eb07583ac1d60eb07583ab9d60eac75614d824882474c3a61d30e9874c3a61d308247013809c04e02701,
  0x1d60eb07583ac1d60eb07583ac1d60eb07583ac1d60eb07583ac1d60eb07583ac1d60eb07583ac1d60eb0758,
  0x1d60eb07583ac1d60eb07583ac1d60eb07583ac1d60eb07583ac1d60eb07583ac1d60eb07583ac1d60eb0758,
  0xf607af2da1048f587aa3d50d7cf500923d30d7ceb07583ac1d60eb07583ac1d60eb07583ac1d60eb0758,
  0x1f30f8a7c53e29f14f8a7c53e29ec0f8635f3e08d7c8244122721ef04fc1ec0d81edcf6e35f04902486be7b2,
  0x1f14f8a7c53e29f14f8a7c53e29f14f8a7c53e29f14f8a7d93e29f14f8a7c53ea1f14f8a7d13e29f14f9c7c5,
  0x1f14f8a7fc3fe1ff0ffa7fc3fd9f14fec7f63fb1fd8e027ed3f69fb4fda7ed3f69fb4fda5db3e29f14f8a7c5,
  0x206d03681b3fba05d02e817403a04d024813408a04500c807407201d018807403a01d00e8074030d7d008000,
  0x1f15046823411a08d046832411a08d046823411a08d046823411a08d046823411a08d04681740da06d03e81b,
  0x211908c846423211908c846423211908c846423211908c845403a1090828411a09f1507883c41e1c04de67c5,
  0x211908c846423211908c846423211908c84642321190c2846423211908c846423211908c846423211908c846,
  0x211908c846423211908c846423211908c846423211908c84642321190f0846423211908c846423211908c846,
  0x229108c846423211908c846423211908c846423211908c846423211908c846423211908c88e423211908c846,
  0x1f14f8a807326a06cf8a092423211908c846423211908c846423211908c846423211908c846423211908c846,
  0x206d03680740da3591aa4e4403a06d00e81b467a3389c88234119f14f8a80740d9f14ff282340da08cf8a000,
  0x23bd1da8ed476a3b51dc8ee47723b46244122091c048248e73809c04e028e347123851c031827223749624e4,
  0x10488244122092430e027011891c04e027014829c048247013809c04e0241220923e91f48fa3dea3b51e28f0,
  0x1c04e027013809c04e027013809c04e027013809c0523c7013809c04e027013809c04e027013809c04e02701,
  0x25192869444a1a50528293d49ea4f527a00049c24e12709380001c04e027013809c04e027014979c04e02701,
  0x25592ac9564ab25592ac9564ab25592ac9564ab00012a80004a8a54400094f00025340000004a0a525282946,
  0x25e52f29794bc80012ee00000025592ac9564ab25592ac9564ab25592ac9564ab25592ac9564ab25592ac956,
  0x265532a995000263531a98d4c6a63531a98d00026213109884c4000000097e4bf25f92fc97e4bf25f92fc000,
  0x26c81829a84d426a13509a84d426a13509a805aa6981f69a44d1828d3424ad000266933499a4cd2668000995,
  0x26e93989ca4e526e53903234e2a71464e9bb4dda6ed3769bb4dda6ed3769bb1ba962cb129b71de26d13689b2,
  0x1eed3ce7bb3dd1ee81245262931498a5241229e950063431c18d830853e9d64ea83f93a69d22b4274139c9ce,
  0x19053fc9fe4ff27f93fc644320a7e53f29f932227dcc825e432227ccc829ec4f627b13d89ec4f61c04c827bb,
  0x2845422a11508a845422a11508a845422a11508a845422a0a5052829414a0a5052828bfa644502a81540a644,
  0x149ca4e5e40492845422a11508a845422a11508a845422a11508a845422a11508a845422a11508a845422a11,
  0x29494a4a5230fa940c52092049290d486a43521a90d486a43521a90d486a3c51e28f1478a3c51e28f0c28527,
  0x29b54daa6d53429a14d0a6853414754c4a6253129894c4092189296d4b6a5b52da96ce02a5952929494a4a52,
  0x2a01512a88543aa1950aa84541aa09502a8053d29f54faa7a53d29e94e8a7753ba9d14e8a74536a9a14daa6d,
  0x2a95548aa354c2a85540a9f54f2a75538a9b54d2a65530a9554b2a55524a9354929a151ea8f5462a31518a8b,
  0x2b0157ea96547aaf1576aba55caae156eab655aaad1566a7d552aac155eaae556aab1556aaa554aaa154ea96,
  0x2b6d5b4ad956c2b5d4f8a8b56a2b4d5a4ad15682b3d59cacd5662b2d4f6aa35642b1d58cac55622b0d584ac1,
  0x2bd95eaaf4579abc95e2af0577a9f551eaec575aba95d2ae8573ab995caae4571a9f5516ae056fab795baadc,
  0x2c4561eb0f585ac2d618b0b3d92c09604b025812c09604b025812bed5f6afb57dabed5f6afb4072a2d5f0af7,
  0x2cb1644b225912c89644b225912c89644b2258bac8163eb1e58bac5d62eb1758bac6162e701588ac45622b11,
  0x2d05682b415a0ad05682b415a02cb565ab2d596acc5662b31598acc5662b31598acc5662b315982cb565ab2d,
  0x2c89644b225912c89644b2d596acb565ab2d596acb565ab2d596acb565ab2d596acb565ab2d596acb565ab41,
  0x2cc5664b225912c89644b225912c89644b225912c89644b225912c89644b225912c89644b225912c89644b22,
  0x2e61724b925c92e49724b925c8ae41656b495a42d1d68cb3a59bacd966ab455a22cf1686b3b5a0ace1684b34,
  0x2cb5720bb05d82eb575abad5d32e9974cba65d32e9974cb995ccae61732b985ccae61732b985ccae61732b98,
  0x2f29794bca5e52f2978abc55e2af1578abc45a0ad956c2bb85daac89644bbc5d32d29772b3d5dbacbd76abb4,
  0x2f717b8bdc5ee2f717b8bdc5ee2f717b8bdc5ee2f717b8bdb5e82f417a0bd05eb2f417a0bd15e92f457a0b1f,
  0x2f417a0bd05e82f417a0bd05e82f417b8bf35ee2fcd7b8bf35e9af5d7a2bd45e82f417a0bd05e82f417b6bdc,
  0x307583ac1d60e1c05810c086043021810c086043021810c086043021810c086043021810c086042c797a0bd0,
  0x30e1870c3861ba304e02c34616b0b585ac2d616b0b585a6b23fe30a81247b26139ff1846c23611b085842c1c,
  0x31418a0c5062831418a0c4f0001c04e02c4b19fb12467e701460b111888092620b104124c3761bb0dd86ec38,
  0x31c0000c6d63680018bcc5e62f31798bcc5e62f317d8bec5f62fb17d8bec5e000313d89ec4f627b13d89ec4f,
  0x322d900c7d642321190ac856423209904c8164031f58fac7d63e2988d3069834c1a60d3069834c1a60d30c70,
  0x324594aca4648b24d942ca0648b27993ac91648b245922c91648b245922c91648b245922c80647b239916c8c,
  0x32d9980cb565b32d996ccb665b32d996ccb665b32d1968cb364eb2c593cc9165632b1958cab648b2a5950c91,
  0x337196acda66cb2099accd6642334d9a6c846423341966cb6666b2d9994cca664b2d998ecb565b331196ccb6,
  0x33d99eccf567a33cd9e4480650b28d9a0c9d6763341960c7d63eb1f59ccc7d67133899c4ccb670337d982c8c,
  0x2f517a4d0e68734397a4bd2685b41da0ed07683af49a0abd2680b405a02bd224d92819f6cf5236b3d19eccf6,
  0x34b5a46d29694b4a5a46d27690b489a42d2068fb47da3ed1f476b475a30d1b68c3465a30d170493454eaad13,
  0x348da8ad456a2b48da82d416a0b48da7ad3d69eb48da72d3969cb48da6ad3569ab48da62d31698b48da5ad2d,
  0x3571ab8d5c6ae3571ab8d5c6ae3569ab4d586ac3555aa8d546aa354d9a2d51380b53cfec0920493525a92d49,
  0x35f99a4d7c6bbb5e1af0d786bbb5d9aead726b9b5c9908d706ae35b9ad8d6b6b5b5a9aaad686ae3571ab4d5c,
  0x3665b2cd966cb364db26d936c83641b20d7e6c6b635b0ed866c2b621b10d876bf35f9afcd806bfb601afed7e,
  0x36d17a0db26d8b40db5cdae5e933cd3a4da96d491b5b44d9c6d13689b44da26d03681b3cd9c6ceb670900d99,
  0x372db96dcb6e5b72db94dc86e42f41b8adc55e836bdb84dc06e036d5b68db46de36d1b74db46dbb6ddb68db4,
  0x3769bb4dda6ed3769bb4dda6ed3769bb4dda6ed3769bb4dda6ed3769514dd76ebb659a2add06e83741ba0dd0,
  0x3805c02e01700b805bfcdfe6ff37e9bf4dfa6fd37b9be2df16f8b7c5be2df16f8b7c5bdcdee6f737adbd6deb,
  0x36b9c1ae0d706b835c1ae0d706b835c1ae0d706b835c1ae0d706b835c1ae0d706b7b9c12e09704b821bdce01,
  0x38e9c74ab1717b8ddc6ae35717b8c9c64e2f717b8bdc4ae23711b88dc46e23711b88dc46e23711b88d544e21,
  0x2b25caae5458bb91dc8ee47723b91dc8ee47723b91dc8ee47723aaf5c74e3a71d38e9c74e3a71d38e9c74e3a,
  0x39a1cd0e6873439a1cd0e6873439a1cd0ad5731b98dcc6e6372bb95dcaee5772bb95dcaee5772bb95dcaee57,
  0x3a315dae8a73f39f9cfce7e73f39f9cfce7e73f39f9cfce7e570b9a1ce8e7473a39d1ce8e7473a39d1cd0e68,
  0x349db8aea574cba65d32e9974cba65d32e9974cba65d32e9957cba31d18e8c7463a31d18e8c7463a31d18e8c,
  0x3afdd7eebf75fbad5d6aeb575abad5d6ceb675b3ad9d6aeb4689bac9644eac7563ab1d58eac755b951b62ea8,
  0x3b71db6edb76cbb65db0ebf75fbafdd7eebf75fbafdd7eebf75fbafdd7eebf75fbafdd7eebf75fbafdd7eebf,
  0x3be1dd4ef577abbc9de4ef2777bbbdddeeec775bbb1dd4eea772bba1dcaee6772a505dc6ed97703b79dbcede,
  0x3c0de06f03781bc0de06f03781bc0de06f03781bc0de06f03781bc0d81042777ebbf5dfaefd77e3beddf4ef8,
  0x3c9de4ef27793bc9de4ef27793bc99e4af0378ebc65e3af1d78ebc75e38f1c78d3c65e32f03781bc0de06f03,
  0x3d25e90f037a2bd15e88f037a0bd05e80f0379ebcf5e78f0379d3ce5e06f267933c9de4ef27793bc9de4ef27,
  0x3d75ebaf5d7aebd75ebaf5d7aebd6deb6f5a7a9bd51ea8f547aa3d51ea6f4f7a7bd41e9af4d7a5bd2de96cd0,
  0x3dfdefcf4e7b63d51ea8f547aa3d51ea8f547aa3d51ee4f717aebd51ea8f547aa3d75ea6f5d7aebd9deb6f5d,
  0x3d51ed2f8f7c7be3df1ef8f7c7be3df1ef8f7c7be29f0af857c2be29f12f857c3be15f0af847aa3d3df00f80,
  0x3ea9f54faa7d53ea9f54faa7d53ea9f54faa7d53ea1f50f9c7cebe85f42fa17d0be85f3cf9e7cf3e75f38f54,
  0x3f39f9cfce7e6bf05f56fc57e2bf15f8afc57e2bea9f54faa7d53ea9f7efaa7d53ea9f54faa7d53ea9f54faa,
  0x3fadee0fe67f33f99fccfe57e7bf8dfbafdd7eebf75fbafdd7c2bf6dfa8fd47ea3f51fa8fd47ea3f4df9efce,
  0x400a005002801400a002ffb7fd3fe9ff4ffa7fd3fe9fe2ff87f8bfd5feaff17f93fc9fe2f717f63fb1fd8fec,
  0x4086041012809c05602b01580ac05602b01580ac0560290128094045f4f00c806403201900b7fdc00a011007,
  0x40ba05d02e81740ba05d02e81740ba05d02e81740ba05d02e81640b1ff4f9d81440a1ff5026812c082043022,
  0x44411e08904482240ba05d02e81740ba05d02e]⟩

/-- Where the overrides of each row of actions begin. -/
def actionFirst : Packed := ⟨4171, 13, 27, #[
  0x6c03401900c005c02c01500a004c024011008003c01c00d006002c014009004001c00c0050020008000000,
  0xd806a03401980c806203001780b805a02c01580a8052028013809804a024011808804202000f807803a01c,
  0x1440a004f027013409804b02501240900470230114088043021010408003f01f00f407803b01d00e4070037,
  0x1b00d606a03481a00ce06603281900c606203081800be05e02e81700b605a02c81600ae05602a81500a6052,
  0x21c10c085042020c10408104001fc0fc07d03e01ec0f407903c01dc0ec07503a01cc0e407103801bc0dc06d,
  0x28c1440a1050027c13c09d04e026c13409904c025c12c09504a024c124090047823811a08c0458228112088,
  0x2f817a0bc05d82e81720b805b82d816a0b405982c81620b005782b815a0ac05582a81520a8053829814a0a4,
  0x3641b00d706b03541a80d306903441a00cf06703341980cb06503241900c706303141880c306103041800bf,
  0x3d01e60f207883c01de0ee07683b01d60ea07483a01ce0e607283901c60e207083801be0de06e83701b60da,
  0x43c21c10d086042c214109084041c20c105082040c20410108003fc1fc0fd07e03ec1f40f907c03dc1ec0f5,
  0x4a8252128093849824a124091848824212008f847823a11c08d846823211808b845822a1140898448222110,
  0x5142881430a1050428013f09f04f427813b09d04e427013709b04d426813309904c426012f09704b425812b,
  0x5802be15e0ae85702b615a0ac85602ae1560aa85502a61520a8854029e14e0a6853029614a0a4852028e146,
  0x5ec2f41790bc05dc2ec1750ba05cc2e41710b805bc2dc16d0b605ac2d41690b4059c2cc1650b2058c2c4161,
  0x65832a1940c986483221900c7863831a18c0c586283121880c3861830a1840c186083021800bf85f82fa17c,
  0x6c43601af0d706b43581ab0d506a43501a70d306943481a30d1068434019f0cf067433819b0cd0664330197,
  0x7303961ca0e4872038e1c60e287103861c20e0870037e1be0de86f03761ba0dc86e036e1b60da86d03661b2,
  0x79c3cc1e50f2078c3c41e10f0077c3bc1dd0ee076c3b41d90ec075c3ac1d50ea074c3a41d10e8073c39c1cd,
  0x8084022000ff87f83fa1fc0fd87e83f21f80fb87d83ea1f40f987c83e21f00f787b83da1ec0f587a83d21e8,
  0x87443821b10d086443021710b0854428213109084442020f107083441820b10508244102071030814408203,
  0x8e046e23611a88d046623211888c045e22e11688b045622a11488a044e2261128890446222110888043e21e,
  0x94c4a4251128093c49c24d126092c494249124091c48c245122090c48424112008fc47c23d11e08ec474239,
  0x9b84da26c13589a84d226813389984ca26413189884c226012f89784ba25c12d89684b225812b89584aa254,
  0xa245102871430a145082831410a0450027f13f09f44f827b13d09e44f027713b09d44e827313909c44e026f,
  0xa905462a21508a8053e29e14e8a7053629a14c8a6052e29614a8a505262921488a4051e28e1468a3051628a,
  0xafc57c2bd15e0aec5742b915c0adc56c2b515a0acc5642b11580abc55c2ad1560aac5542a91540a9c54c2a5,
  0xb685b22d816b8b585aa2d41698b485a22d01678b3859a2cc1658b285922c81638b1858a2c41618b085822c0,
  0xbd45e82f31790bc45e02ef1770bb45d82eb1750ba45d02e71730b945c82e31710b845c02df16f0b745b82db,
  0xc4061e30e1868c3061630a1848c2060e3061828c106063021808c005fe2fe17e8bf05f62fa17c8be05ee2f6,
  0xcac6543291940c9c64c3251920c8c6443211900c7c63c31d18e0c6c63431918c0c5c62c31518a0c4c624311,
  0xd1868a3441a18d0868234019f8cf867a33c19d8ce867233819b8cd866a3341998cc86623301978cb865a32c,
  0xd846c035f1af0d746b835b1ad0d646b03571ab0d546a83531a90d446a034f1a70d3469834b1a50d24690347,
  0xdf06f637a1bc8de06ee3761ba8dd06e63721b88dc06de36e1b68db06d636a1b48da06ce3661b28d906c6362,
  0xe5c72c3951ca0e4c7243911c80e3c71c38d1c60e2c7143891c40e1c70c3851c20e0c7043811c00dfc6fc37d,
  0xec87623b01d78eb875a3ac1d58ea87523a81d38e9874a3a41d18e887423a01cf8e7873a39c1cd8e68732398,
  0xf347983cb1e50f247903c71e30f147883c31e10f047803bf1df0ef47783bb1dd0ee47703b71db0ed47683b3,
  0xfa07ce3e61f28f907c63e21f08f807be3de1ee8f707b63da1ec8f607ae3d61ea8f507a63d21e88f4079e3ce,
  0x100c8044012000ffc7fc3fd1fe0fec7f43f91fc0fdc7ec3f51fa0fcc7e43f11f80fbc7dc3ed1f60fac7d43e9,
  0x107883a41c20d906883241820b905882a4142099048822410207903881a40c2059028812408203901880a404,
  0x10e487043721b10d486843321910c486042f21710b485842b21510a48504272131094848423211108484041f,
  0x11508a6452228914089e44e226913089644a224912088e4462229110886442220910087e43e21e90f087643a,
  0x11bc8dc46d23611ac8d4469234119c8cc465232118c8c4461230117c8bc45d22e116c8b445922c115c8ac455,
  0x1228912488243921890a484241920890248023f91f88fa47c23d91e88f247823b91d88ea47423991c88e2470,
  0x12949484a3251128494049f24f127493849b24d126493049724b1254928493249124492048f247123491848b,
  0x13309944c926393189884c3260930097c4bc25d92e496e4b525992c495e4ae25692b09564aa25492a094e4a6,
  0x13ec9f24f727a93d09e44f027713b09d44e827393949c84e3270937c9ba4db26c935c9ac4d5269934499e4cd,
  0x1468a3251828b9458a2a5142899448a225102879438a1a50c2859428a125072831410a0650128013fc9fa4fc,
  0x14d4a6853329914c4a6052f29714b4a5852b29514a4a505272931494a485232911484a4051f28f1474a3851b,
  0x1540a9e54e2a69530a9654a2a49520a8e5462a29510a865422a09500a7e53e29e94f0a7653a29c94e0a6e536,
  0x15f4af65792bb95d4ae65712b795b4ad856a2b4159caca5632b09580abc55c2ad1560aae5552aa154caa4551,
  0x16c0b5c5ac2d516a0b4c5a42d11680b3c59c2cd1660b2c5942c99644b1e58d2c61628b105862c21608b0057f,
  0x1784bbe5de2ee1768bb05d62ea1748ba25cf2e6972cb925c72e2970cb845c02df16f0b765b92db96d8b685b2,
  0x184cc2260f3071830c146083031810c046002ff17f0bf45f82fb97d4be65f12f797b4bd65e92f39798bca5e3,
  0x1914c8864232018f8c7863b31c98dcc6c63531998c4c5e62d31598a4c4e6253119884c3e61d30d9864c2e615,
  0x1994cc86633309980cbe65e32e9970cb665a32c9960cae65632a9950ca6651328193cc9a64c3259924c90647,
  0x1a18d0868234019f8cfa67c33d99e8cf067733b19d0ce667233899c0cde66e33699b0cd666a33499a0cce666,
  0x1aacd526a73529a90d446a134f9a78d3a69c34d9a68d3069734a9a50d266923489a40d1e68e3469a2cd12687,
  0x1b58da86d23681b38d9a6cb3649b20d8c6c43619b04d7e6be35e1aecd726b835b1ad4d666b13579ab8d5a6ac,
  0x1becdf46f937c1bdcdec6f537a1bccde46f13781bbcddc6ed3759ba4dd06e63721b8cdc26df36e9b70db46d8,
  0x1c6ce3271738b1c50e267113881c3ce1c70d3861c2ce147093841c1ce0c7043819c08e0270037f9bf8dfa6fc,
  0x1d44e9e74d3a59d24e8e7453a19d04e7e73d39d9ce4e6e7353999cc4e5e72d3959ca4e4e7253919c84e3e71d,
  0x1dfcefc77d3be1decef47793bc1ddceea7733b89dbceda76b3b49d9ceca7633b09d7ceba75b3ac9d5ceaa753,
  0x1e98f487a23d01e78f3879a3cc9e5cf2a7933c89e40f1e78d3c59e28f127883c39e18f0a7843c19e08f02780,
  0x1f5cfaa7d33e89f3cf9a7cb3e49f1cf8a7c33e09f00f7c7bc3dd1ee0f6c7b53d99ec8f627b03d71eb0f547a8,
  0x1fe8ff27f83fb9fd8fea7f43f99fc8fe27ef3f69facfd47e93f41f9cfcc7e53f21f8cfc47e13ef9f74fb67d9,
  0x208103e81e40ea07103681a40ca05d02c814409a04502080e406a02d01280840320150068014001ff8ff87fb,
  0x20f107683a41ca0e106e83641aa0d1066832418a0c105e82e416a0b105682a414209d04c825412208d044821,
  0x215d0ac85542a214d0a4851428213d09c84d426212d094849424211d08c845422210d08484142020fd07c83d,
  0x21c90e2870437a1b90da86c435a1a90d2868433a1990ca864431a1890c286042fa1790ba85c42da1690b2858,
  0x2249122890447a23911a88c445a229112888443221110488144021fd0fc87d43e21ed0f287743b21d50e8873,
  0x22b51588ab45522a51508a745322951488a3451228514089f44f227513889b44d226513089744b2255128893,
  0x232118e8c6462a3111868c2460a30117e8be45ea2f11768ba45ca2e116e8b645aa2d11668b2458a2c115e8ae,
  0x23a91d28e7472a38d1c48e046fa3751b88da46ca35d1ac8d546a234d1a48d1468233d19c8cd466232d1948c9,
  0x245922a914489a449222910487a43521890a484a41d20a903480a4011fc8fc47d23e11ec8f447923c11dc8ec,
  0x24c526092f49724b525892b49524a52509274932495248923491248524091f48f247523891b48d2465230917,
  0x254129c94d4a6252d2949494a4251928a9444a1a50928093f49f24f527893b49d24e527093649aa4d1266932,
  0x25cd2e49714b7a5b92da96c4b525a52d09674b325952c69614b025792ba95c4ada5692b29584aba5552a8952,
  0x264932098e4c6a63131698a4c4a62130e9864c2a6113069824c0a6012fe97e4bea5f12f69794bba5d92ea974,
  0x26d13669b24d8a6c135e9ae4d6a6b13569aa4d4a6a134e9a64d2268d3449a14cfa67533899b4cd266132c994,
  0x273d39c9cd4e6272d3949c94e4271d38c9c54e2270d3849c14e026fd37c9bd4de26ed3749b94dc26dd36c9b5,
  0x27a93d29e84f3a7993ca9e44f1a7893c29e04efa7793ba9dc4eda7693b29d84eba7593aa9d44e9a7493a29d0,
  0x2815408a0350128054009ff4ff27f53f89fb4fd27e53f09f74fb27d53e89f34f927c53e09ef4f727b53d89eb,
  0x2899448a225102879438a1a50ca86142ea1650aa851426a12508a84141ea0e506a831416a0a504a82140ea06,
  0x29714b4a5852b29514a4a505272931494a485232911484a4051f28f1474a3851b28d1464a3051728b1454a28,
  0x2a1950aa84541aa09502a8053fa9f94f8a7a53c29d94e8a73538a9bd4daa6b53529a54cea65531a9894c0a5e,
  0x2ad1564ab05572ab5556aa9553aa95546aa15502a79538a9a54c2a59528a925482a3d51ca8d545aa25510a87,
  0x2ba55ceae5571ab855beadd56dab655aead5569ab455a0ace5662b29590ac65622b09580abe55e2ae9570ab6,
  0x2c4d624b115882c3961ab0b5852c25610b06582ac11606b025802bf95f8afa57c2bd95e8af2578abbd5daaeb,
  0x2cd966ab34599acc9662b30597acb965ab2c595aca5650b26592ac91644b2158fac79638b1a58c2c5d62ab14,
  0x2d516a6b525a8ad3d69cb4c5a52d25690b475a32d15688b435a12d05680b3f59f2cf5678b3b59d2ce5670b37,
  0x2dd16e6b725b82dbd6dcb6d5b62dad6d4b695b3ad996cab645b1ad856beb5e5aead716b6b5a5acad616aeb55,
  0x2e7d738b9b5cd2e65730b975cb2e55728b935c82e35714b895c3ae11704b7f5beadf16f6b7a5bcade16ecb75,
  0x2f517a4bd05e72f2d792bc65e22f0977ebbe5deaef1776bba5dcaee176ebb65d9aec175abaa5d3ae95746ba1,
  0x3071836c1860ab04981ec0c604b019806c005feafe97eebf45f8afb97d6be95f3af917c4be05eeaf6d7b2bd7,
  0x315d8aac53628b13d89ac4a623b115886c4161f30f1872c36619b0c585cc2d61630ad854c296143095844c1f,
  0x31f58f8c7b63d31e58f0c7763b31d58e8c7363931c58e0c6f63731b58d8c6b63531a58ccc63630b17d8bac5a,
  0x3299946ca064eb26d932c9764ab24d922c8f646b231916c8a644b22190ec86642b211906c82640b2018fec7e,
  0x334199ecce665b32598ccc366032fd97ccbd65e32ed974cb965c32dd96ccb565a32cd964cb165832bd958ca9,
  0x33e19eecf667a33cd9e4cf167833b59d8ceb67533a59d0ce567133819bccdc66d33659accd566a334d9a4cd1,
  0x3495a48d236913485a40d1f68f3471a36d1a68bb455a26d11687b435a14d086833411a04d0067eb3ed9f4cf9,
  0x355daaad536a8353da9cd4d6a6352da94d496a3b519a8ad426a034f9a76d3969bb4d1a64d3069734b1a54d28,
  0x35fdafcd7b6bc35ddaecd756ba35cdae4d716b7b5b9adad6a6b3b599acad646b1b589ac2d606af3575ab8d59,
  0x3695b48da26d0b681b3ad9a6ccb661b2ed966cab651b26d916c8363db18d896c4361db0cd856c2360db04d80,
  0x3729b92dc86e3b719b88dc36e136fdb78dbb6dd36e5b70db76db36d5b66db26d8b6b9b56daa6d4b6a1b4eda6,
  0x37c5bdedee6f5b7a5bd0de66f1b785bc0ddf6ef3775bb8ddb6ed3765bb0dd76eb3755ba8dd36e83735b98dcb,
  0x3845c20e0f7073835c18e0b7053825c10e07702380dc04e006ffb7f9bfadfc6fdb7e9bf2df66fab7d1be6df2,
  0x38b1c56e2a714b8a1c4ee26712b891c46e22710b881c3ee1e70eb871c36e1a70cb861c2ee1670ab851c26e12,
  0x391dc8ce45722390dc84e4172038fdc7ce3d71e38edc74e3971c38ddc6ce3571a38cdc64e3171838bdc5ce2d,
  0x398dcc2e6072fb979cbae5c72db969cb2e5872bb959caae54729b949ca2e50727b939c9ae4c725b929c92e48,
  0x3a51d24e917483a3dd1ce8d745ba25d0ee85741ba05cfee7d73db9e5ceee75739b9c5cdee6d735b9a5ccee65,
  0x3acdd62eb0757bab5d58eab754baa1d4eea6752ba91d46ea17503a7dd3ce9d74e3a6dd34e9974c3a5dd2ce95,
  0x3b79dbaedc76dbb69db0ed776b3b55da8ed2767bb35d96ec9763bb15d86ec27603af9d7aebb75d3ae1d6ceb5,
  0x3beddf4ef977c3bdddecef577a3bcdde4ef17783bbdddceed7763baddd4ee97743b9ddccee57723b8ddc4edf,
  0x3ca1e4cf247913c81e3cf1c78d3c61e2cf147893c41e1cf0c7853c21e0cf04781bc09e02f0077fbbf9dfaefc,
  0x3d2de94f497a3bd11e86f427a0bd01e7ef3e79ebcf1e76f3a79cbce1e6ef3679abcd1e66f32798bcb9e58f2a,
  0x3df5ef8f7b7bcbdd9ee6f717b83dbdedcf6d7b63daded4f677b23d8dec0f5d7ae3d65eaef567aabd49ea0f4d,
  0x3ebdf5cfad7d63eadf54fa87d2be89f3ef9e7cdbe69f2ef947c8be41f1ef8c7c5be29f0ef857c1be05efef7e,
  0x3f85fbcfdc7ed3f5dfaafd37e8bf3df9afcb7e4bf21f8efc67e2bf11f86fc17df3ef1f74fb87db3ed1f64fb0,
  0x406602f01580a404e025011808403a01900b804c02200f0068024001ffaffa7fbbfd1fe2fee7f5bfa1fcafe3,
  0x40fe07b03c81d40e206d035819c0ca06102e816c0b205702a814c0a204f026812c09204702180fc07a03901a,
  0x419a0cb06383141860c105f82f41760b905b82d41660b1056829c14a09f04d825c12a0930488234112087041,
  0x425e129093848c23a11908b844421e10d08384041fe0f907a83cc1de0ed07583a41ca0e306f836c1b20d5068,
  0x436e1b10d6869c34219b0c9863430e1810bd85dc2e216b0b2857c2b21570a8853c29a14b0a284fc27a137098,
  0x44ae24f124891c48a23d11a88c4456225110887c42e213105881c4062010fc87c43d21e10ec87443921c30de,
  0x45622ad1558aa454e2a31508a7453629914b8a545262911478a1c50a28314089fc4fa27b13c89c44de26712f,
  0x45e62f11778bb45d22e71728b8c5be2dd16d8b645aa2d31688b3c5962c91638b145822bf15e8aec56e2b5159,
  0x46de36d1b58da46ce3651b18d846be35d1aa8d4c69634519f8cf466e32d1938c7c6323111848c045fe2fd17d,
  0x47c23d71ea8f347963c91e38f1477a3bb1da8ecc75e3a51d18e6c7323931c88e3c71a3851c18dec6ee3731b8,
  0x4852425211908483641920b904481e40d20390148063fd1fd8fe47ee3f51f98fc47de3ed1f58fa47ce3e51f1,
  0x49a24c726092ec9624a7252926c922487242920c8f2473236919c8c245b22a914489a44722090f486e42d215,
  0x4ad65692b39594ac655f2ab954ca9254129c94bca4a52328f946ca2250928093f49ea4f127493949c24d926a,
  0x4b925c52e096f4b725b52d996c4b5e5ad2d596a4b4e5a52d19684b3e5932c8963cb065792bb95d4ae65712b7,
  0x4c166093039814c065ff2fe97ecbee5f52f997c4bda5eb2f4979cbca5e32f0977cbba5d92eb9754ba25cf2e6,
  0x4c8e6453219904c7e63d31d98e4c6e63531998c4c5e62d31598a4c4e6253119884c3a61b30c985cc2660f306,
  0x4d5e6ad3509a74d326953499a3cd1a68b3439a14d0667f33e99eccf267733a99ccce266f33699accd265d329,
  0x4e0a70137d9bbcdd66e93739b94dc66e136f9b74db66d936b9b54d926c33609afcd7a6bb35c9adcd6a6b3358,
  0x4eaa7533a89d3ce9a74b3a49d1ce8a74339b9ccce5e72d3959c9ce4a7233909c7ce3a71b38c9c5ce2a713388,
  0x4f4a7993cb9e4cf2278f3c69e2cf127873c29e0cf0277f3be9dc4eda76b3b49d9ceca7633b09d7ceba7593ab,
  0x4ff27ed3f29f8cfc27df3ee9f6cfb27d73ea9f4cfa27cf3e69f04f767b93db9ed4f667b13d79eb4f567a93d3,
  0x524692148fa4752028fd47ca3d51e28ef476a3ad1d28e5465a2d514688d43ea1b50ba84d41ea0ad02a807402,
  0x53569a94d3a64d3229774aca5552a294d4a4a51528293f49ea4ed27293749aa4cd26292f496a4ad252927492,
  0x5536a7d539a9bd4cea65531a94549ea4d521a8ed472a31515a88d43aa1750aa83d3e29ef4eda7253829bf4de,
  0x5662b2f596acad652b27592ac8d642b1f58eac6d632b1758aac4d622ae7561ab0557eabd55daadd566aa354e,
  0x574eba55d1ae8573eb9d5cdae6572ab8d5c2adfd6f2b735b6ad9d6c2b5d5adad5569eb495a0aced66eb35599,
  0x598ecbf64cb24d922c89631b1658a6c4b612b07d83ac155f7afa57c2bd15e3af0577abb95daaec575abab5d4,
  0x5a96d496a3b515a86d4169fb4f5a76d3969ab4c5a5ed2d695b4a5a4ed2568ab43da16d07681b4059fecfd666,
  0x5c1ee0d6feb7bdbc6dd76e5b6fdb66da76cdb63db06d7f6bdb5d5ae2d6d6b4b595ac2d5d6acb555aa6d4f6a6,
  0x5d2ae8373eb9edcf2e7773ab9cdce2e6f736b9adccae6172eb965caae53727b935c92e4771cb8a5c32e1770a,
  0x5e3ef1d78dbc65e2ef15789bc45e1ef0d785bc25e0af01778bb9ddcaee3770bb7ddbaed976bbb55da2ec3755,
  0x5f26f917c7be2dee6f5d7adbd65eaef557a9bd45e96f477a1bcfde76f3979abcc5e5af2b794bc9de4af23790,
  0x60cb04b823c10e08303f81dc08603701980bc056027011807bfd5fd6fd57e5bf05f7afb97dbbed5f62f997ca,
  0x624311d88cc45e22b11187cc3d61e30ef876c3ae1d30cd85dc2ae1530a784fc276137097839c1be0db06b834,
  0x655b28f931c8fe47723991bc8d6467231917c8b64572078f4c75637b18b8c3c60e30317f8bdc58628f13f89d,
  0x69574a9a53d2969474a1a4fd276937499a4bd256927491a47d1b68a34119edcebe7173599a9ccf662f2f3968,
  0x1ac5d4a6a174eba74d39e9774b7a5ad2ce9634afa56]⟩

/-- The set of tokens that an override concerns. -/
def actionColumns : Packed := ⟨6853, 10, 35, #[
  0xb02c0a00c09024090240800c0801c0701c0701c060180501004008020080200c0200802008020040200400,
  0xd0340d0340d0340d0340d0340e0340d0340d0340d0340d0340d0340d0340d0340d0340d0140d0340c0300b,
  0xd0340d0340d0340d0340f00c0d0340d0340d0340d0340d0340d0340300c0f00c0d0340d0340d0340d0340d,
  0x1104410014050140d0340d0340d0340d0340d0340f00c0d0340d0340d0340d0340d0340d0340d00c0303c03,
  0x1d0701c0701c0701b06c1a0681a064190601705c1605816058160581605415054120501404c120401104411,
  0x1e0781e0781e0781e0781e078250901e078230781e0781e078220781e0801e078210801f0781e0781e0781d,
  0x1e0781e0781e0781e0781e0781e0781e0781e0781e0781e0781e0781e0781e0781e0781e0781e0781e0781e,
  0x210842108421084210842108421084210842108421084210842108421084210842808427098210781e0781e,
  0x2a08421084290a4030842108421084210842108421084210842108421084210842108421084210842108421,
  0x310c4300c0300bc2f0b82e0b42d0b42d0b42d0b02c0b02b0ac2a0a82a0a82a0a82a0a82a0a82a0a82a0a82a,
  0x340d0340d0310c4310c4310c4310c4310c4310c4310c4310c4310c4330c8310c4310c4310c4220c4310c41f,
  0x370dc370dc370dc370dc370dc370d4350d4360d8360d8360d8350d4350d0340d0340d0340d0340d0340d034,
  0x3b0ec3b0ec3d0f03b0ec3b0ec3b0ec3b0883b0ec200ec3b0801f0ec3b0e83a0e8390e4380e0370dc370dc37,
  0x4210441100400f83f0fc3f0fc3f0fc3e0f83e0f83e0ec3b0ec3b0ec3b0ec3b0ec3b0ec3b0ec3b0ec3b0ec3b,
  0x4210842108421084210842108421084210842108421104310842108421084208842108420801f1084210820,
  0x4f1384d1344d1344c1304c12c490504a12448120481204711c4711846114451084210842108421084210842,
  0x511484310c431484313c431485214c51144521485114c511445114c51148511445014050140501384e1384e,
  0x1f16057150541545507c5615454150521485214852148521485214852148511445114451144511445114451,
  0x5d174031745d174131705c1705c1705c1705c1705c1705c1705c0501416c131545816058160581685a16859,
  0x1304c5c1705c1705c1701304c5c170131945c1705c1704f170131705c1706418c5f188611805f1785e1785d,
  0x5c1705c19c5c1705c1705c1705c1705c1705c170661701304c131701304c5c1705c1701304c5c1705c1705c,
  0x5c19c5c1705c1705c1705c1705c17067170671705c1705c1705c1705c1705c17067170671705c1705c1705c,
  0x261b06c1b06c1b06c1b06c0986b1a86a1a86a1a85c04c6913c6904c140505d04c1304c681705c1705c1705c,
  0x731cc13050141701304c721c44f04c1304c691a46904c701c0701b86e1b86e1b86e1b86e1bc671b86d09c67,
  0x761d87615876158761d8760844f13c4f13c1313c7504c13050141d0131cc731cc731cc731cc731cc731cc73,
  0x7a1e87a1e8561dc7a1f07b1e87a1e87a1e87a1e8221e87a0807a1e8770801f1e87a1e4781e02609c771d876,
  0x7a1e87a1e87a1e87a1e87a1e87a1e87a1e87a1e87a1e87a1e87a1e87a1e87a1e87a1e87a1e87a1e87a1e87a,
  0x771dc771dc771dc771dc771dc771dc771dc771dc771dc771dc770a0771e87a1e87a1e87a1e87a1e87a1e87a,
  0x7e1fc6d09c671f87d1dc771dc771dc771dc771dc771dc771dc771dc771dc771dc771dc771dc771dc771dc77,
  0x8320c8320c832082620480200802008020080200801b46d1b46d1b46d1b46d1b42609826098260982609826,
  0x65194652186516465194652186519486214851cc03210842108400c0320c0320c8320c8320c8320c8320c83,
  0x8821c8721c8721c8721c8719465194651946519465194651946519465194651946519465194651946519486,
  0x6d09c8c0988b0801e0ec7a22820108260982609826098261b4272242621c822088721c8721c8721c8721c87,
  0x26098261b427248260986d09c91098260986d09c900988f0804f09826098261b42723826098260982623426,
  0x30340f00c0d03c030340f00c0d21c9a03c03034992600325c030209603403254261b427250260986d09c93,
  0xa92a0a60988029ca613c4f13ca5290a3290a3288a1288a12809f09c6d278262749c1589b1589b03c030340f,
  0x1f2d4b42ccb22c8682c820050b109803084271b4b0098801b4af2b0ae2b4ae2b44f13cac2acaa2acaa2a4a8,
  0x682e0b82e0b82e0b81a0b72dcb72dcb82e0b82e0b72e0b72e0b82e0b82e0b72e0b72dcb82dc1f1a068050b6,
  0x681a0681a0681a0141a01f1a0680501f1e4bb2e8ba1a0682e0b82e0b82e0b82e0b82e0b82e0b82e0b82e0b9,
  0xc3158c3098bf098bf158c3098bf0501430056084c1308c1050c0050c02acab2fc142f8142f0142f0bd050bc,
  0x9e1ac672bc9e1ac67338cd330cb2301432820050c9320c7320c700cc6050c5050c52f4143145630cc409856,
  0x331c14050d015877344c23441434014340c831cc333c5630c5630c5630c4f1dc4f1dc4f1dcaf2786b19caf,
  0xd635403358d5358d5358d5358d5358d5358d500cd6354d6354cb2245630ca434cd4098a434ca4290d22d4d2,
  0x5630c87368e216487368e21645638426370ae32c92380df378dd3742613c26370ae36cda23cd9360d7358d5,
  0xe819ce819ce819ce915ce819cdc2b8dc2b8e737487368e2164e6098e2164ae2a48e2ace532c91390e3370ae,
  0x2618461350ef00c03210033b8cb250ed164ae2a89335cdd3b0ec004ec3acea3acea3acea368263a0673a067,
  0xa5294a5294a5294a5294a5184a5164611846118461294a5294a5294a5294a5184a516461184ed35061184d4,
  0x2709c2700427050310508a050f33c8203c4140c49d180f03c0f03c0013c061184a5164611846118461184a5,
  0xb813cb81705c1705c1704f170f73d8563d4f4308f4080140ecd4294a5294a507c68228202282709c2709c27,
  0x1423c14108fd3d8203f0143ecfa158f93e0c23e0220f020050420503b2e0b8170b82e05c2e0b8170b82e05c,
  0x6513c6513c6519465194651946540865099012dc4f2e04f404b723c203f01422c56400ff308ff08843080fe,
  0x10240c6540c65408032050220426194651946519465194651a0681941f1a06513c6513c6513c6513c651944f,
  0xb8408b840903194b8408b8408b8408b8408b8408b8408b8408b8408b8408b8408b840903194b8408b8408b8,
  0x1022e10240c652e1022e1022e1022e1022e1022e1022e1022e1022e1022e1022e1022e1022e1022e1022e102,
  0xb704c1304c132dcb72dcb72dcb72dcb707c75158b8408b8408b8408b8408b8408b8408b8408b8408b8408b8,
  0x106099012dd012dd012dd012dd012dd012dc8b080504145941459404b72f46807d04404b704c1304c132dcb7,
  0x10719507195071950719507195083090841c6541c6541c6541c6516014154551541f1645541c65098522e106,
  0xee2f50b2b0ac2b0ac2b0ac2b0ac2050a2b10a1a0b71590941c6541c6541c6541c6541c6541c6541c6541c65,
  0x6700d0f19c0343c682dc144390d088a5430af2b0652bcac00cee1b46d1b46d1b46d1b46d1b46d1b46d04c03,
  0x1162dcb7454b72dd14050b72dc1444d10441104411044110165104491121c8721c8721d1019c0343c6700d0f,
  0xb72dcb72dcb72dcb72dcb72dcb72dcb72dcb72dcb72dcb72dcb72dcb72dcb704cb72dcb72dcb72dcb745cb7,
  0x59460b72dcb72dcb7455142dcb72dcb72dcb72dcb72dcb72dcb72dcb72dcb72dcb72dcb72dcb72dcb72dcb7,
  0x6d1b46d1b46d1b46d1b46d1b46d1b46d1b46d1b46d4646d4646d1b46204d0121c5921c8721c8721c8721c87,
  0x6d1b46d1b46d1b46d1b46d1b46d1b46d1b46d1b46d1b46d1b46d1b46d1b46d1b46d1b46d1b46d1b46d1b46d,
  0x11a46d1a4691a098c4164c4419060986d1b46d1b46d1b46d1b46d1b46d1b46d1b46d1b46d1b46d1b46d1b46d,
  0xb721cb7488680501448468108680eca5164a5164d40985948059310810991f47801474a5294593511c21c59,
  0xd4350d4350d4164d4350d435059350d4098d43505935059350d4294a5294a5294a54902648c260981f09887,
  0xa5164a5164a5164db36cdb36d262dca5294a5294a5294a5294a5494d4350d4350d4350d4350d4350d4350d4,
  0xeb3aceb3ac593ac263ac263aceb164564a52830928164dd374dd37459098dd09859005273511135111294a5,
  0x7216472165064190616506418721c8721c8721c8721c8721c8721c8723ac7236c59468594691a4691a1652a,
  0xeb3aceb3aceb3aceb3aceb3aceb3aceb3ac593ac5921c87050874b0a5164b72dcb74acb7441112945935111,
  0xeb3aceb3aceb3aceb3aceb3aceb3aceb3aceb3aceb3aceb3aceb164eb3aceb3aceb3aceb3aceb3aceb3aceb,
  0xeb3aceb3aceb3aceb3aceb3aceb164eb3aceb3aceb3aceb3aceb3aceb3aceb3aceb3aceb3aceb3aceb164eb,
  0xa51645904ceb3aceb3aceb3aceb3aceb3aceb3aceb3aceb3aceb3aceb3ac593aceb3aceb3aceb3aceb3aceb,
  0x591c85929459294593ac5936c59294591652a1c85936c591c8592945947c0129459294593ac5900d2d36c59,
  0x68264994b9221a0db164db164eb164db1642210c14108141a0eb164db164eb164db164220f0140ec141a072,
  0x13013cdb36cdb36cdb36c1436c4f00cee00cee404b700cee0892f2dd2f2dd012dc4f2b06d09ceb19cea09922,
  0xb713cac4bcb74bcb74bcb70892f2dc033b92f2dd2f2dd2f2dd2f2dc033b8033b8db36cdb36d31098524c130,
  0xb74bcb74bcb74bcb74bcb74bcb74bcb74bcb74bcb74bcb74bcb74bcb700cee00cee00cee00cee0892f2dd2f,
  0xb74bcb74bcb74bcb74bcb74bcb74bcb74bcb74bcb74bcb74bcb74bcb74bcb74bcb74bcb74bcb70892f2dd2f,
  0x9f4cc9f2809f27c9d27c9f27c9f0049f4c9324c9324c801404b7404b74bcb74bcb74bcb74bcb74bcb70892f,
  0x721c8721c8721c8721c8721c872004724dd37005114440144536005364d4014d4014d09f4cc9f2809f4cd33,
  0xee3b8013b9394e5394e539005384e001005211c8721c8721c8721c8721c8721c8721c8721c8721c8721c872,
  0x1405014050010513d4f53d4f53d0053c4f13c4f13c4f13c0053c4ed3b4ed3b4ec014e8013b8ee3b8ee3b8ee,
  0x1400507950d4350d4350d4350d4350c56508c207c6850540050221c8724fc1f050684f8d500c2603c0108814,
  0x565307252d4b52d4b52d4b52d4b52c56508c236ced350db3b4d407c6852940050225254851d465154400cc7,
  0xd207c6854948500142d4b8374de374725387235d512e0dd378dd1c94e1c8d75454e0994c5414f1c94e1c94d,
  0x145641f050f000cee5605655d5615957559552b154554ac551552b154384e037cbd54d0b378dd35cdd290d3,
  0x15a5695a5715b568b8408655001410940050422f54005042500140ed400503b500140c540051595001456540,
  0x1022e102194b8408652e1022e1022e1022e102194b81a0b84086536d5e574b8408652e0682e1021955a5695a,
  0xf657d5f57d5f57d5f57c565095f2e102194b8408b8408b8408b8408652e102194b8408b8408b8408b8408b8,
  0x5936c5936c591641313c4f13ceb1c84f3ac7213ceb1c84f3ac723aceb3ac4f3aceb3aceb3ac723751a58560,
  0x3c58d6358d6358d6358c56509635001422d400508b5001422cb813d62500140ecdb164db164db164db164db,
  0xb7599152dc4359565595655956559456509652e1022e1021956404d16500141088721c8721c8721c5c1705c,
  0x1f050140501407c14050680501407c1407d40050b72dcb75a96a088132dd695a167598b7598b7598b7598b7,
  0x1775d81f5d5745cc1f5c97107caf07c5707d6e07d6d07d6c5c01f5bc1f2bc1f15c1f5b81f5b41f5b01f0896b,
  0x18007d7e07cd45c01f5fc1f5f81f3501f0897d07caf07c5707d6e07d6d07d6c07d7c5ed024457a5e5425e0c2,
  0x17950978309775d81f5d5745cc1f5c98207d7e07cd407d815ed024457a5e5425e0c25dd7607d755d17307d72,
  0x17a5e5425e0c25dd7607d755d17307d726181f5c9855e97950978309775d81f5d5745cc1f5c98407d7260d7a,
  0x16d5e97950978309775d81f5d5745cc1f5c98807d725b17a5e5425e0c25dd7607d755d17307d7261c1f5c8d4,
  0x1725b97a5e5425e0c25dd7607d755d17307d7262c1f5c98a5e97950978309775d81f5d5745cc1f5c98907d72,
  0x280a11e0a18f638280a18d0a0286358e0a18d2e0dd2e0b82e0b82e0b82e18c6318c6318c6318c159426301f,
  0x1946506d46594650a5294a5294a5294a52959408993050b7645902dcb764992648b705191640b70a0280a028,
  0x1946519465194651946519465194651946519465194651966519465194651946519465194651946519465195,
  0x1946519465194651946519465194651946519465194651946519465194651946519465194651946519465194,
  0x10165d0165d0165d0165d0165d0165d0165d0165d0165d0165d0165d0165d0165d0165d01651946519465194,
  0xd4350a5294a5294a5294a5294a52959865d01294a5294a5294a5164d40990a3519740597405974059740597,
  0xa56799d671974059865d0166197405994e99865d012945966d9a2945966d9a35026350a5294a5294a56653a,
  0x1944e99467d946502264cd4294a5294a565d01294a5294a529459650d409997405974053a4653a4659429594,
  0x199680a0681996819465194651946513a65194651946519465194651946519465194651a065194651944e994,
  0x1944e9944e9944e9944e9944e9944e9944e9944e9944e9944e994281944e994281944e994281944e994280bd,
  0x12b688b729459294a568592645906493b4ed3b4ed3b4ed3b4ed3b4ed3b4ed3b4ed3b4ed3b4ed3b5713b56d3a,
  0xeb445a5695a5695a5695a515942695a4295a22dc2204cb763828634a5690a5688a5164a5295a34ada235111,
  0xdb2dd8f6382804c1369c033b81304da700cee63c2863c2863c2863c280a0280a02863c2863d8e0a1a636cb7,
  0x1906a1906a1906a1906a1906419064190641906a190005a8641a636cb7698db2dc1369c033b81369c033b9a6,
  0x1906a801641aa6a5916a5916a5916a5916a5916a5916a5916459164591645916a591005a9645a8641a8641a8,
  0x222dd2f088b74bc222dd2f088b74bc222dd2f088b74bc222dd2f088b74bc222dd916ad916ac01645ab641aa,
  0x87370ae0986d1945630c261b57e370ae13c4f13c4f2dc4f2945630c261b4d4098b72dc226b4271b4266b12f,
  0xae0986d6bcdc2b85630c261b457530a2158c30986d5b9ae53dae1f826098260982609826098260984f1f86d,
  0x6d6c0261b56e098260982609826098260987e1fc7e09991640b76b86d1bc262bcac370ae13c4f0986d3acdc,
  0x191640b713c4f088132dd91640b76c86d278262bcac0986d2bc4f13c261b4eb0986d6bc6d21c261b4571b5b1,
  0x1902dcb7645902ddb46c84f3ac590982204cb76c8af2b1b3645902ddb21b4a60984f13ca5645902dc4f2dc4f,
  0xdd6e0a54685607c1430c566e1571b4dd0994c541b75315053cd835d4c6d9b5088132dd91640b7645902dd91,
  0xb83ac72538eb1c9510985607c1430cb813cdd0986d2bc261b4eb0986d6bc261b487098db6e46d3742613ca5,
  0x19467d994e9942819465197651984053a67d97651984053a67d994e8a065d94661011581f050c31581f050c3,
  0x1ba04d23645904acb765d3a65101665976510165d94661014e99467d94651976519840597651984053a6513a,
  0x1bc36dbc6f1bc6f0db6f1bc6f1bc36dbc07c1413c4f13c4f6f1bc6f1bc36c13459ba6edba6edba6edba07dbb,
  0x1bc6f1bc07dbc050db6f1bc6f1bc36dbc6f1bc6f0db6f1bc6f1bc36dbc6f1bc6f0db6f1bc6f1bc36dbc6f1bc,
  0x1b313dbd298262e16e0981f4d868460b76f1a62ddbc698db2ddbc698b76f1a636cb707d916401307dbb6e813,
  0x6d5b5182dc261b457460b72bcac1f826098260982609826098260987e1fc6d1f9182dc261b56c460b72bcac,
  0x17e460b74d9364d8261b4d4460b70993613ca513d3613c1f4d868460b70986d2bd182dc4f3ac590984f13c26,
  0xa56502264ca529591640b7294a5088132ddb26c8a5294b76c8a5294a5294a529461184b813cbd294260986d,
  0x1c40986d70c2636ceb1c8dd2e06d0986d70826705c06fdbe4681f500141a079294a56653a294a565d98404a5,
  0x1c6281994e99d07c143b4d40981f09c6d1a026294a52e04f2f4a50986d2bc261b5c50986d310261b4870986d,
  0x1014e9c86653a65d94661014e9c86653a65d94661c84053a651c72819b651974e99466101718a04e99d6519f,
  0x101718a04e99d6519e675c866c2265d3a65198405976519840597651984053a72197651984053a7219765198,
  0xa5294a52959b088a5294a5294a516599728d409999675974e994661012813a0899f00d9904dc965d3a65198,
  0x1d073c285b9cc731cc731cc731cc731cc731cc7397b7350273111294a565c1f4d86872cb70511368d2b2dcd4,
  0xeb1c8eb3aceb164eb3aceb3aca53b8ee3b8ee3b8ee3b8ee3b8a5294a529459350d4754d4751d3748a674527,
  0x1941c8721c8721c8721c8721c8721c8721c8721c8721c8721c872294721c87213c7213ca51c8721c8721c872,
  0x8721c871646519487761d775dd775dd775dd775dd775dd77397b7350275d11718a04e99d651c6281d64e99d,
  0x1ce5edcd409da444282b1b1765d9765d9765d9765d9765d9765ce5edcd409d944487350a5164871648729459,
  0x1dc771dc771dc7397b735dc40911295932945964d9476c223501364c2815dda769da769da769da769da769da,
  0x4f13c4f761dd775dd775dd775dd775dd775dd7397b735027751100cee00cee21c870a087771dc771dc771dc,
  0x1e07397b735e0409113ac283addf77ddf77ddf77ddf77ddf77ddf7397b735df40911778a513c4f13c4f13c4f,
  0x1408868408280a0280a0280a0280a0280a0280a1ce5ec2873502444282bcac781e0781e0781e0781e0781e0,
  0x1982945978999759974e99d651db660d4405e2718a07853a6759467dbc159bc36c4f16426718a0665e14e99d,
  0x1974e99d660a578999759974e99d660a578999759974e99d660a578999759974e99d660a578999759974e99d,
  0x19d2759466101665d665d3a675982945978999759974e99d651db660d4405e2665d665d3a67598295e2665d6,
  0x1014ccee294ee294ee294ee294a5294a5294ee295c6281e165d3a675945d198088ee29501718a0759e165d3a,
  0xb041cb041cb041d0741d0741d0741d0741d0741d0741d0741d0741d07281e165d3a6749d6501f4f1981a1e3,
  0x1e5665d665d3a6753c660ee294594cde4665d665d3a6759476d3c660223501340533791072c1072c1072c107,
  0x1974e99d4f1984cde4794ee29459294a5665d665d3a6753c66133790a529599759974e99d4f19829533790a5,
  0x1e878535689e97a1a25a9ea7a4a07a1e14d99827d2679de64d5154aca5665d665d3a6753c660a54cde4665d6,
  0x1e97a013444264552b68901294a52e04f2f4a50986d13c590984f1b44f164267a1e14d4271b426239e97a1a2,
  0x12b689017a1a27b5ec5a9ea7a4a07a1e14d99827d2679de64d5154ade87844f4d5a213da213cbd7ac26294a5,
  0x55455012ddc628199759e165d3a6749d6517466191640223b9017b8a5294a5294a5164d4099c804d1109915,
  0xdb36cdb36cdb3acdb36ceb36cdb3acdb36ceb36cdb3adf17c0a02e13a599ef0a01f5d1423093c08868499a3,
  0x261b5f50986d21c261b5b10986d6c0261bc2613c6d374261b56c0984f7d0dd09c6d7cc267c9662dda62dcdb,
  0xeb164eb164eb164eb164eb164eb3aceb3aceb3aceb3aceb3addb2ddf02813a4f1f12e1423086d2bc261b56d,
  0x174508c26459008868499a3155012ddf2598b77c0a04e93c7c4b8508c26459068c5509c6d375f6099f2598b7,
  0x13c571f12e1667bc2856d74508c26459008868499a3155012ddf2598b7499f02813a4f15c7c4b8599ef0a15b,
  0x1267c0a04e93c571f12e1667bc2856d74508c26459008868499a3155012dc271b4d47d8267c9662ddf02813a,
  0x1f804d35455f72ddf2598b77c0a04e93c571f12e1667bc2856d74508c26459008868499a3155012ddf2598b7,
  0x134d4267dcb72bcac6cc4f294a60996e098ea7f94f275fd4bdfc0a17007dfb7e93c4d99827c14089f948868,
  0x6d2bc6d5b4af2b06d7d54f1f826098260982609826098260987e1fc6d1f86d5b13b4ed3b04e007fd3c66022,
  0x1f72ddfd4f1984d5f72ddfd4f1984d5f72ddfd4f1984d5f72dc6d5f86d3506d051b0598b7598b7598b780501,
  0xb77f53c661357dcb77f53c661357dcb77f53c661357dcb77f53c661357dcb77f53c661357dcb77f53c66135,
  0x13c6602204d357dcb74f06d6616c4d4267dcb713c4f3ac590984f4f06d660594d4267dcb77ed3c66135099f7,
  0x721c8721c8721c8721c8727593a5993a5993a5993a5993a599994e9663aceb164dd7f5db4f1984d5f72ddfd,
  0x1fd4bd707e93c661f9489f84d5f72ddfd4f1980892679de604d35808b77ed3c6602204d35099f72dd3a5989f,
  0x22812033b5fd4f1982d0134d5f72dd997593a598723aceb3aceb3aceb164eb3addb375fd76d3c661357dcb7,
  0x72165662dd662dd662dd662dca576ca576d27815014ed3b4ed3b04c721c8721c8721c8721c8721c8721c8ee,
  0x13b04c79598b77f52f5c1fa4f1987e5227e1357dcb77f53c66022499e7798134d6022dc721c8721c8721c9db,
  0x1357dcb74f1984d5f72dd3c661357dcb7598b7821014ec1308a077f52f5c1fa4f1987e5227e1357dcb781901,
  0x6d1bc26599665996659966598285c01f7ec271b4221a20b828268253c661357dcb77f5db4f1983ac2216413,
  0xb77f52f5c1fb7e93c661f9489f84d5f72dd662de0c4053b04c2281dfd4bd707edfa4f1987e5227e1357dcb7,
  0xb7294a52e04f2942613c4f13ca57f5fc0a1fb4f1366609f645900886804d35099157dcb7835014ec131e566,
  0x1014ec1321c797f52f5c01f7e93c661f9489f84d60e7dcb77ed3c1b5985f935099f72dd3c1b59835135099f7,
  0x1ea281e8785366609f499e7799154ad662de104053b04c2281dfd4bd707e93c661f9489f84d5f72dd662de0f,
  0x2281dfd4bd707edfa4f1987e5227e1357dcb75a9ea281e8785366609f499e7799154ad366609f4d5e87856a,
  0x134d6172de168555c7c5f0282142e13a7f56684c2884974508c24f0221a12668c13404b7598b7845014ec13,
  0x2172de144e9fd59a130a1744f198089a304d3585cb7851fd59a130a174089a304cb78513a7f5664f19808a18,
  0x13c661f948a1968d3585cb73ac593aceb3aceb3aceb3aceb7c5f0282142e13a7f542309db4f1983ac5904d35,
  0x134d6172de144e9fd5992f84c285c2125d1fa4f198089f948a1968c134d6172de144e9fd4bd70849fb5d1fa,
  0x122865a34d6172de144e9fd4bd70849747e93c661f948a1968c134d6172de144e9fd59a130a1744f198089a3,
  0x7268c134d61a2de144e9fd4bd70849fb5d1fa4f1987e522865a34d6172de144e9fd4bd70849747e93c661f9,
  0x13c08868499a304d012dc6d1bc268713a599707ec271b5021be1b09a14665d64e9fd59a130a17476d3c66022,
  0x2144e9fd4bd70849fb5d1fa4f1987e522865a34d6172de168555c7c5f0282142e13a7f56684c2884974508c2,
  0x174508c24f191640221a12668c13404b78513a7f5664be130a170849747e93c660227e522865a304d3585cb7,
  0x2268962488e22885213ba2087e1e499e779a1d04d354552b4ccb785a15571f17c0a0850b84e9fd59a130a212,
  0x1218821e79e1d04d354ad332dde8786284f19848620879e7875354ad332dd6a7a8a07a1e18a13c4d99827e27,
  0x594d52b405332de2a4d0a5294a5294a5294a5294a5294a5294a5295344d2298a6298a5e8786284f1366609f,
  0xb7851e8665d6785974e99d4f19879ca54d52b4ccb7294a5851e8665d6785974e99d4bd3b76d3c6602279ca5,
  0x22288521488ee1a22087e1e499e779a1d7e0134d5154ad332de2b851e8665d6785974e99d4f19879d354ad33,
  0x5a9ea281e878628275fd4bdfc0a17007dfb7e93c4d99827d91640227e62789a2589223]⟩

/-- The list of actions that an override puts. -/
def actionValue : Packed := ⟨6853, 13, 27, #[
  0xcbc84e32b20310148084032010cb4654000000000066032f1970cb465832b1950c046002fc0008bec002002,
  0x11588aa45422991488a2450227913889a44c22591285f42f9224910087e43e21e90f086642c1978cac66032e,
  0xc0860830323611ac8d4469234119c8cc465232118c8c4461230117c8bc45d22e116c84842f22d11648b0457,
  0xc8863e32119011fc8fc47d23e11ec8f447918b0c6062e47723b11d48e847323911c48e046f23711b460a305,
  0x92c49524a124c924491248123c91c48d1930ca064e48c245922891248824392189084832411204900322,
  0x16bc88043f2c595fcafc57d2be15ecaf450728314140002ee1768bb05d600025312949484a32510000000000,
  0x1a80d046733401a74d0a68132119f0d3869834b9a58cfe2f31968ca8a0e5062828cb46545c02cc96fcb725b8,
  0x1aecb1458935b9ad8d6a6b43599ac8d626b0349100cd5e6ae3489ab4d546a83539600d1e6a53471a908046a1,
  0x1018daa6d43699b48da26d02029b3cd9c6cc3659b28d926c83639b18d8a6c43619010d846c035f9af8d7a6bc,
  0x1c4ce247113881c3c65c70e3861c2ce127083829a40e0e70438185805f45862cc1600d046da36c9b60dae6d6,
  0x1cc8e623131830c08e6072f3971cb0e5672a3939c98e4a7243919c8866072117e9c80e3e71d38e1c60e2c714,
  0x1b44da06ca3649b20d8e6c63629b10d863011800cbc60230036f0cac5f82fb1930c8c63e31c18c8c58e6a733,
  0x1614cf869c34c1a5cd2c6af34899fc5e66bf35f1af4d7858a2c49accd626921968ca8db26d836b9b58da66d2,
  0x1b3cd9c6cc3659b08d806bb35b9ad8d6a6b43591ac0d046ae3569aa8d506a73479a94d1c6a44f19a80d0069d,
  0x1af8d7a6bc2c51624d666b13491b64db06d736b1b4cda46d13681b28d926c83639b18d8a6c43619b68daa6d4,
  0x1a60d2e6963579a44cfe2f336c9b60dae6d63699b48da26d03651b24d906c73631b14d886c32839418a0a6bf,
  0x1adcd6c6b535a1ac8d604033571ab4d546a83539a3cd4a68e352100952a6a034127a4d0069d5401658cf869c,
  0xbcca0e6bf35f1af4d7858a2c49accd626922831414d046da2031b54da84053679b38d986cb2021b08d806bb,
  0x1ad0d646b02019a58d5a6aa3539a3cd4a68e35210096806a03401a755709ed33e1a70d00a663411abcd2267f,
  0x1808c0065a32a3571aa0db440636a9b5080a6983679b38d986cb2021a5cd846c035d9adcd6c6b5,
  0x60e306d834ab955d2aed76ebb65daaed0d3069734b287460230135c8c0176ebb65daaed0000000,
  0x3229838c1b60d31e1572b3c55db2a1944c9b64d3265930c976453215908c8263c31d98eac74639b188000000,
  0x19576abb43999cc8e6072f3961cace3a71c3899c48e107043999cc8e6072f3961cace3a71c3899c48e10704,
  0x2ea5750ba75d310c88622eb2180718d3069734b1ab8d50c9b642b1d9a46b9f65236ed76ebb60e30719722b92,
  0x10160001a38d1825e50728314145f82fb1979d3c6563301970001766bb25d8aec175ebae5d6aeb1756baa,
  0x29f195a00000032ad954ca9653a9e97440000003299942000606b0394f0ba25d0284574200064fa9d98f8000,
  0x11888c246022f915c8ac452228113c8942fa17c800000000065b0000000cb4659a9f996400000032c195ecae,
  0xc5862e48023f91f88fa47c23d91e88f24742390c4c62830218191c48e046f23711b48ce4662328bf45fc463,
  0x1a54d262eb34a2a8dc9ed8f17e0bec928492248924091e326193923491848b2451224910487243120463e320,
  0x1600f725ae2c31600b58ad756b2b5558eac639b9a345e459e2d3ab5d5acad5563ab18000e5f55caf49576e53,
  0x2db96da2eb5b62b51b6e5a72d01ce9554ac560e306d834ac439b9a345e482940da034f9082940da034f907d2,
  0x2059e3ef177863c0d54cd747489a6cd322eb34d2ecd764bb15d82ebd75cbad5d62ead754ba95d42e9d74cbf7,
  0x1d5cd0069d3429df4dc667c34e1a3ccfe2f30001618b0058b2bf9100afc57d2c515f0b1257b21f95e8000f27,
  0x1ad8d6a6b43599ac8d626b0349100cd2c6af3571a48d206913569aa8d506a73479a94d1c6a42011f40d40682,
  0x1b4080a6983679b38d986cb3651b24d906c73631b14d886c32021a5cd846c035f9af8d7a6bc35d9628b126b7,
  0x1c44e2070f3871c30e167093841c14d207073821c0c0522fa3411b68db26d836b9b5880c6d536a1b4cda46d1,
  0x1cc46263061811cc0e5e72e3961cace547273931c94e487233911c845fa72038f9c74e3871838b1c50e26712,
  0x5f82fb97d8bea5f42f997c8bc45de0000000b5c5862c016c00003261918c7c63831918b1cd4e66732,
  0x24fd27c93d49e24ed27493949c0000b0e5c40000000000000000000000000000000000000000000000000000,
  0x341da10da26d0b66526ac8c6bdb495a0a935000254d2a46094a8800129632f4a40cad28e9464a2a511286942,
  0x379dbccde56f2378dbc4de16f0377dbbcddd6ee376dbb4dd96ec3749ba2dd06e7b739b9adba6dcb6e1b5eda5,
  0x1600b38e9d0000000e6c2f0736b9a5cd0e67633b1858bec606343980f3879b7293944f2ae4a6f5b7a9bd2de8,
  0x17d4be85f32f916c0b305882c31600b0e67c5e1000000000033e28500005e27813bf1df05de7781660b1c586,
  0x1660b4a5862c01690b305b62c31600b6a5f72cc16d0b0c5802d999f170900c8034014bec5982d91618b005b1,
  0xc1c87643a17e8bfc5fc43521a10ac5de2f1177908c8443291779660b7c5862c016f4b305bc2c31600b765f8,
  0x5b70001620b4c59e2d496a0b1457c2c495ec6463251920c7063c31d18c8c6c63431318a8c5060c308,
  0x1754b8e5c52c50000b1200000015f000057b2e1161c0000002e106042f017700016280005890001628000589,
  0x2748c846b035816bc00068431f1a0cce66722c90000cf62ef0001620b005870000000b885c32c50000b12000,
  0x28418b6c5a62c315d8acc5562a314d8a2c50627b139828c106042ffd7e2bf05f32f7d7bcbd6154a869c92e24,
  0x1a10d066df72830c5860c2f616b0a184ac1960c3059826c12606302980ac04097949982ec15608b025806bf6,
  0x1a48d2269033f19f4ce267033799b8b0266d2c0bc55280a102932a15280d945429614b04e626fe1b8cd60683,
  0x1c6cb0000034e9c6880468a1790bc0e6e7363471a30d1a68b35d1ae0d726ac3559b04d0c6a63519a88d3e69e,
  0x1d34d1a68b3490000d2077c3bd9de8cfa7573ab1648d160001780000eaa2ef3aa19c0ea666e2c09d48b02680,
  0x1f3cd3c0003839cb4e0e69d38d1a00e3669d38d00005e000039b0000d162f03a80bc85e07363a71cdce6c68b,
  0x1fecef669d38d1a00e3669d2cf1a74e346923488000d1e0003aa8000d746b835c9f50d566c13cf9a98fa26a2,
  0x1600d1e00034e800064c000191800064431f0000c700003190000c580003130000c1800030518100005fa000,
  0x1c6800068b0001a380002f00001008d3a71a0001c68d3a7fb3bd8000b0069d38d2180b0e5b02cc1c6cd0071a,
  0x23c4e3469d38d1a7400074e0001c1c0006a7000161c0006803490000d2068038d9df0ef62fa0001c68d3a69d,
  0xd005072830004a0a7500001d3800074d0000000b3000048300011fa00047e00011ea00047a00011e6000,
  0xd1cc3661a0000d1c25e66c0000d1d15c6e50000d1d1e00004a525245de93749b1df0ef60002c01a48000690,
  0xfb67db3ed1f68fb27d909e84f427c13e1a384d40da000000000000000031618b0c4862431418a0c46623,
  0x1a793c067d1809ae40009d90002740b249732d416e4b805b82cc8004b7e0001a3a3110020000000000000000,
  0x1b054a66a64f4a7a0b2466c31618a0c486231549498d049d93402825410a0750328053f89f74f900053c49e1,
  0x1a794c8a6353129854c0a5f52f29754b8a5b52d29654b0a5752929454fca7c53d29e1422a76000299d4ac6ab,
  0x1a98000a9456080013c067d55e1a78000a9455100006026b90002a64d566c154b1a98000a945332994b24a7f,
  0x1746a7d53da9e54eea7553a2acd562a0e5c4ae29736b885c3ae1570c68055100013c067d5a09aacd82b3d,
  0x29f54f6a7b53ca9e54eea7753ba868a4ca75154a84196e00065a8001962000656000194aca00003244000c6c,
  0x2bc15deaee576abb15d6aea574aba1456a2a573ab995caae4571ab8943ea1e50b2854000ab555a0001568ab2,
  0x2c25610b075832c15608b035812c05600aff57f28e9472afd57e2bed5f4af957c2bdd5ecaf557a2bcd5e4af1,
  0x2c8d644b21590291163eb1e58eac71636b1a58cac6162eb1658aac51626b12588ac4161eb0e586ac31616b0a,
  0x2afd552aa8553aa90552aa6552acd966ab34599acc9662b30597acb965ab2c595aca9652b28593ac9964ab24,
  0xea2ba55d21d6d728b9500018f8b36b935c72e3d5a8aaa562ab1157cabd555aaa95a8ac55622b0d584ac0,
  0x3475a380005ceaff57f2bf85f42f9d71ab8b5f1ae3179cbcf5e62f35792bca5e3af21780bc15df2efcd00ac1,
  0x30f4bd2c3c61db0e8bcec372f330d986ac342f230b8d4cc2a360978d852c2761317818165df603303d73cb9c,
  0x21a91ba8cb449242cdece7f0001d84fe2c5c62eb148d565f062497bd890c4762317b58865ec62131058805ea,
  0x1920c8f000323991ac7a63db3959c8ce36713339992cc86603271912c8863b80018d2c6a3f81600f087df,
  0x2829ad80003e734ccf48cea6758c8d0ce32418e219863a3194328c6860c864183b2e197230135c8000000c93,
  0x3bb1dd0ee77703615b08500721b5dc7e6d1b6818001a68ce6633274d3a4f247903c59e28f127883bf9c9ce4d,
  0x3db1ea4f517a7bd31e92f4878ebc70000f11787bc39e1af08780bc01dfaefb77d3be5dec5c81f115e1deaef1,
  0x1721fc2fde7eebf71fb6fda7ecbf61facfd57ea3f4df74fb97dabecdf64f987cbbe4df20f8f7babdd1ee0f6d,
  0x3ba8000cf54aa00013ac9d45d21e59a74d3969b34d59eecf6677b3b59dc9c14e1408203f01e80e1020001008,
  0x3e65f2cf957c1bde1eeef767b9bdc9ec0f557aa3d4dea0f4e7a33d15e88f42799bc8de44f1e78dbc2dde6000,
  0x3fd9feaff47f9bfc1fdefee7f6bfa9fd2fe87f3bf99fcafe47f1bf89fc0fc87debef1f76fb87dbbe99f36f9a,
  0x33fd9fcd0967c2e3202f01680ac052027012808c04201f00e806c02e015009801c00a002fff7fe3fedff4ff9,
  0x3219a48b8c68b301da28d1355a3449a22d10000b43d97ac6b3cc34180007516822e5d39e9c7686b401392d0a,
  0x37b1b10d876b80001b00d6e6b7b914552d6d6b535adad0d696b3b5994e49cd175a7a8000593000331d98cc87,
  0x3a4127293a746ba31d16e8a4a1a4e1b68db573f39f5cf4db06d8a5099e0da07353629b16d8c6c6b979beedf6,
  0x35f5af8d3d69db439a02b5b681383dc1ce0b6fc37d5bdad896c335c40009474a3251528893f49f24f527893b,
  0x2f2cd566a65e19b05ba6dd4747ba21d0ed9300036419e0cf90009fddadcd816bf35fd0f47ff3fe3609b06000,
  0x38110eedad0001ff5aecd75744b6a5b54e7773b398db2a0006fd21a1b227f21a5b7ec000d9200034dd9e230c,
  0x3670000d9b5583669b2ed98170b639ae6d7274039bdcdcda36d23985c7e88071ea1fdc5c87e71421f5c2a87c,
  0x3cc1e5ef2e796bcb1e56f2a794bca1e4281578c1ff8000da76d337fdbfeb6e6cf8001524d9e6d9b6c9b3aa0b,
  0x3d85ebef5e7aebd71eb6f5a7acbd61eaef5643db801c028797a0bd01e7ef3e79ebcf1e76f3a79cbce1e64f31,
  0x3e25f10f877c33e15f08f827c0be01efef7e7bebdf1ef6f7a7bcb84dc28f6a7b4bda1ecef667b2bd91ec6f62,
  0x38b5f60faf7d73eb5f58fab7d53ea5f50fa77d2be91f46fa27d0be81f3ef9e7cebe71c4ce277c6be31f16f8a,
  0x140db5cdac6d5af95b50fd27e8bf41f9efce7e6bf31f96fca7e4bf1df8cfc57e23f0df84fc17e03efdf7ce2c,
  0x381c92ee06284b815c06e026fe80005cadf96f8b7c1bdedee6ebb759baa0016e6372db94dc923c3721b6c000,
  0x14cea8133eb8ad3d449b715143dc524997119431c2c000533a91ccfae112c98b9dc20e0d7063829c12e08,
  0x3955ca8e4b726171cb8a5bc2c31698b000002e3391dc8ce487220001c84e4128b3900a28e3e24eb8f0a24e2f,
  0x1732b980000000000000712b849bfce2570937f939ad965273971cbae5a72db961cb2e5672bb5e1af4d79,
  0x3a19d0ae84741ba09d02dbc6df36f5cf6e7c73cb9e1ceae74739b9c9ce2e70735b9b1ccae6675ebab9d34e64,
  0x3aa5d50ea77533a95d48ea37513a85d40e9f74f3a6dd38e9874cba59d2ee9474ab7c9be8df3749ba49d1c5c5,
  0x3b0dd84ec17603afdd7cebc75dbae9d72eb875bb85dc32e1875b3ad5d68eb37593ac5d60eaf756bab1d56eaa,
  0x3b6ddb4ed976c3b5ddace3071938c5daaed4769bb49da2ed0767bb39d9aecc765bb29d92ec8763bb19d8aec4,
  0x31357a6bd45eab179aba02e6764011ffcef7000bb99feeff17f5bf5ddca001771bb91dc2ee276fbb79dbaedc,
  0x205d7d8f040009d69e86eef000bc4ddfe001777406c002eed8000005dd60017748001a16ce1670337d8b2c4c,
  0x229d14c8a5446a2291128867c89e09edc7816113d28f008454223cdde6cf3579a3c990508274133c95032818,
  0x3d2de0c00178280051588ab45522a51488a340d20300027f67d8be39ed6f4777a0005e86eef0008005de48a8,
  0x5e32ffd7fc3fc9fd8fdf000bc29f6cf947b8bd35e12001810c07603501980c401de34001783bed1f24f6f,
  0x1b70db66cf3669aecd526893441a1cd0c64231f18f4c8264031fb0897d80002cd9668b042f00000bc45e42f0,
  0x1e80f3e68b3471dfc5e04023bf1b8cdbe63d3711b84dc00002c00000b0058100016000005842c196040006dd,
  0x1df8ea07d70000bc8b4c59e38d1a740007d33e91f1cf9068038d9ee80006dd36e1b6cd9e6cd35d9aa4d127a1,
  0x1a9ce5a0003539a9ce5a0002cb164cb020002ca9650b0268e3bf8000d1c77f3a69f6000068d2011df8000402,
  0x166d28259949aa4d126668e346000080468a0000000ea02f00001d38e6c0003a69a2ce5a000383a02800070e,
  0x27c0ce09ef4f719b80009ec4f596053be9de33827753b866e4eda768d449c64e299c13889c33371610b06581,
  0x288143ea1e50e000143aa1b50ca85543052650ba85942aa4d526292d494a49524018c0c8a13509283d41a9f1,
  0x28e146ea3651aa8d1466a32518a8c145ea2e516a8a9458a2b51528a5450a275132895448a235112879442526,
  0x2ff156e00036d9b3cd9a6dd36e1aed4aaa54354a91948aa44521a909482a4051fa8f947aa3c51ca8ed474a39,
  0x3581abcd546a9b549a9ad4c6a5b519a8ad4469fb4f9a78d2f69734b5a50d27693347da3cd176863249906c07,
  0x270ccdc5842c19604b3e5a000029a54d06a2625b12988ac4461fb0f9872c38619b0c9848c235f72fb57cabe4,
  0x2a6d5346a2667b335988ca3645b1e56d6b6a5b4aadc0006dd36e1b6cd9e6cd35daa6152e6a94e32714ce09c4,
  0x2ddd6ecb735b92e0d6c22ab5b02adc0006db3679b34d766a936eacfd67c6dc59dace9672b3859bab715b6add,
  0x2ee8b0abb932018f977abbb2c2ae68b366ec37096acaf2b965c12d68ace5682b4ada16ceb665beadf16f4b79,
  0x1bad23200046c80011400003771bb4dd68ed3829fbce0a91b000236c0008a20001c18c7e7052cb190178cbbc,
  0x11b40004508000de46ef3799bc4de06f837b9bf0df66fa3801bd8dfe6f937e9bd0e326fe38ba3acdd67ed,
  0x1d84ed47643b41d80ede76938b9e48dd68810001d64eb06eb3ca1c151060003b71b80e0a8ec3779fb8dde91a,
  0x1e28f127883c71e10f1a7873c59e0cf2278c38b9e4cdde8820001d78dde75f3ae9d70ec67623b39d98eca76b,
  0x21c50d28784391c5cfd87e738b9f84fc07e53f21f8cfd27df3f41f88fcc7de3f61f9ce2e7913c61c5cf0c785,
  0x112889344c225d12c89c449226d12a899448a27d13471743c21c800086c435a1c10de86e43a21a90e686d,
  0x23751cc8e047223711d48e538ba3611a6000466a3311a28d0467a3551968d446723491948d84699c5d13e89a,
  0x1aed2309130002435218911488243d22a90b48a243922490a48c244ce2e8ea4729c5d1be8de471a3891c28e7,
  0x2d9183ab7460f2f617aebd15e82d8d7f6bfa6b2b591ac6d626b0b57da2a0003549b6cd9e6cd36e9b7178abc4,
  0x2610e923fc5dc165c5a62d200015dd7fcbef5ee15dd7202ae15695a9702b805bf2ded6f0b755ba2dfd6c4b65,
  0x259108e82b431231903a85e42e21690228c13fc04bd01e95a4aa04bd29c3ef4c7263531898b4c3a61930a983,
  0x25d111e88b443a2112e48584b8a13908e97041ba5bd056968447a22d10e88442c213906e813097a09118c81d,
  0x221d10874a4b921612e284e423a5c106e96f415a5a10488c640ea5910268c1407a568ff097543121790b885a,
  0x212108c83841b20b10548253e120790388143da2048f5a8103d41fe4e7297543121790b885a408a5d111e88b,
  0x4f826a06d4571b9425e8f0448223911885344420f110a7c9431a1850be84942ea0c10b67bb42ca15d09e84d,
  0x22b8fb67da3ec84f427c4001ff22b915c7db3ed9f68fb47d93ec84f427a13e09f0ff47fe79e3ed9f68fb213d,
  0x25f07f897600025a52ce9664b2a58d2b895b4ac900129e94d4a825311888011fe0ff11888011fe0ff11e0000,
  0x19b0c58628312188ce966e431618a0c4862330d9868e9466c372a65d32c9924bf264400094f000262931297d,
  0x24bd25c92d49624ad254929494249d24c92549184bd2489ab4d3268d1ec8c54d123c918a12f3b81cfcdcc5cb,
  0x240920290047fa3f91f68fa47ca3e11ee0002ea04bcee812f2ea04bd3809bd4dc26d53649af4d624c9262930,
  0x27900c89bf4df26f13769ba4dca6dd36c9b44d9a6c53609ae4d6a6a93529a84d3a6953489a14d02415208903,
  0x2ad9560a8b54513c49e0bdd502a811406a0250027fd3fc9fd4fda7e93f29f84fb27d53e89f34f3a7993ca063,
  0x3005800bf55f9948d7e8beb5f52fa57e4be25f0af814dca6d549aa494dea6c535a829522a90547a9c151aa8c,
  0x32f997ecde66db35598ac7d63f31b58dec6e632318d8cac9d64f0000d526db3679b34dba6dc61630acd76c02,
  0x3330d28cc2660b30d976cba65e325992ac9434a2db1900c7f6409a516d8c7163831c99b8cdd66cb3699a6cd4,
  0x351da82d40698b4c19f6cfa6ae3561aa2d4a6a1b4e19e6cf2000b3a19cecd766b33619a2cd06691a51996cca,
  0x3539a92d476a13501a64d3067eb3f1ab8d586a8b529a86d3867a33c8002ce9673b569ab2d566aab53da9cd48,
  0x3715b8cdc46e1370db82dbf6e034b1a56d216910005a32d1a69534a5a42d20000b465a30d5b6acb55daaad50,
  0x1720af0036000010432619001b38edc72e3a71c38d9c6ee35719b8d1c44e20710b87dc3ae1e70e3869c36dc7,
  0x1480005a1179869c35400017996842f617e01b16845e61810bc06042f05780bb80005e65a10bb04e406c173,
  0x168433e1a201b16845e62f32d085d40d00361a3800068c043021073839a1cc0e587283921c80e386b42e8174,
  0x2e81730270134ad634703401980ce1840c196845e618e0c406343140362d08bcc32e19a01b16845e62f3,
  0x62806c1970cd00d83260360cf868806c17e01b04e406c17503400d839c1cd0e6072c3941c90e4071c35a000,
  0x15d82f05770c08ab855a56a0c085e0ace5682b49594ac856600001a00cc0670c2060c34e1aa01b063831018d,
  0xab4ad400000000000cc0430c2959cad05790000610306000010007caec00003406082ea1810bc000004001f,
  0x17042ea5a11798000b422f30000bcc0005a11798000b545682d5808003e5761698b48b2e5652b21598aee2ae,
  0x1600b765b42c016ccb645802d8963c0005ae2c91660b600002dd0000b1e5802c91644b2058f1798000b42068,
  0x1644b2058f2c91644b2058f2d38000b3a5a600016b4b4e5ac2c91644b2058f2cf9680b3a59e2df1600b7a5bc,
  0xba87be3de9f04f808233dfa088f787bb4ca800104282040fa070f560002ea1eacee87ac3d51ea4f50592,
  0x25e52f05d44c025fd2fc84c425a12909299d4ce000106a834419a0c9062830417a0b905a82a4cda669332998,
  0xa6a528274539ca4f4e52731540aa154f2a7d538a9d5472a25510a86543a8285a62d2505a8312f697a,
  0x2b455a0b555a6ad1559eace5aa2d31688acd5662d4d696b43565ab296a4b4a5a12b25590a6a2cda734000000,
  0x2ab5558a84541aa08b36a7353929c56b2b515a4ab855c0b585a82d215beade5abad3d68ead35692d5969cb46,
  0xd82ea41220a1044826415610307d842bda5ecad717b6b705b7adc56bcb5d5ae2d7d5b4ad956c272955eaae,
  0x7343981cb0e507243901c70d680000000520ba105882e1970cd00008504290c2060c00017400006082e6000,
  0x106434e1aa01b10b485c000033010c30a18e0c4063431400020f107c33e1a201b10808421840c1810c0841ce,
  0xf7026a1320bd85f806c41c20e90a88363ee0c8064c00042521305cc83400001b06048361782090fb8822418,
  0xff027c13d1570ab4ad413e09e959cad0569000000027c13d2bc000027c13d09f04f827a13d1a38d1825e12e,
  0x1660b680002d98000b020002c09600b0a5842c19608b0213e09e90007fc13e09e8ffc7fa3e909f04f47de3eb,
  0x163026a58d2df1600b7a5bc00016ecb6c5802da96c8b005b12d29600b4858e2c01670b020002c080000005ae,
  0x1eb8f5a7793bc1ddceec7750001dd0ee65d43b91dc4b465a22c91674b3c5962c31620b2658709f04f425e12e,
  0x20d8f980002ea1f30f9a7cb3e51f24f8a0002ea1f14f8c7c43e184bcf849944c98000f665cb3d91ec4f607af,
  0xb9674c3dc1edcf6c7b53da21590aa854429a1490a2850426a67c00083f41f20f507899e00020ed074839,
  0x17513046ea3749ba0dce6e43a1972ce9812f39c1750e7412f39f1cf4e7873b39ca5b92da96c4b5a5a8b96981,
  0xfb07dc3ea1f68fc13a69d24eba7553b066c31618a0c486232e59d30c58628312188cc3661a2ea04bccd86e5,
  0x20380007f70001e7400075139a1ca4e507253919c78e2c7153869c28e127023799c04de26f537804f827a3f1,
  0xd2d0f687940a9ff80008ac455a2a91528a4451a0690187f600021e8ffe7fc3ad9e9cf460004600000faa000,
  0x2105080828413a09903281840b8000f047813c01680eb481600022010fe87e43ea1f10ee0003fea1a0fe67f2,
  0x1db0eba6f53ae1d20e8e7463a29d10e867422e99d04e8073f454229d14c8a5446a229112886422a111086842,
  0x1e98e2a7a53851e8cf4479c3cd9e54f2c7d53a89e900007343949ca0e4a72338f1c58e2a70d3851c24eda75f,
  0x1fa8de27093780000fac7d537a9cd0e527283929c8ce3c71638a9c34e147903af9e3ceba7093ae1f38f467a7,
  0x1d70fba7dc3cc9e60f2e79a02a98d4fe85233fa8000ff46f539a1ca4e507253919c78e2c7153869c28fd66f3,
  0x1bc4e126f046423251848c34639f380008ad37a9cd0e527283929c8ce3c71638a9c34e148763afa1d4e1275d,
  0x1bc000079d491248524091f48f24752389084770000dea7343949ca0e4a72338f1c58e2a70d3852278de689d,
  0x1c34e148e9379a3a0e126f137824240008ef37a9cd0e527283929c8ce3c71638a9c34e148d7379a358e126f1,
  0x1ca4e507253919c78e2c7153869c2922e6f3384a458de26f00001f5520e6f539a1ca4e507253919c78e2c715,
  0x25892c29604afa5792ba0004e8a73d39c9c84e5a71d3927434ac17512ae9564aa9b84dc06df3ae8000dea734,
  0x1924c906473231914c8864331e18ecc7463931c18d8c6806d31999e8cf267833b99d8c6e07333a95b00d4674,
  0x1990cc66623309980cbe65e32e9970cb665a32c9960cae65632a9950ca66523289940c9e64e3269930c9664a,
  0x22dd012808403a01900a80340120050008b645aa2d11668b24020d351628af03522c0cd4669334199cccc665,
  0x18acc4e6063029810c066023009800bfe5fd29597f0b985fb2fd17e517e8be2e9a2f51788bb45d17f91728b8,
  0x1784bc05df299172cba45d12e800b8b9e2a92e71734a4c0002e51724c6263031718b4c546293131894c6462f,
  0x1774bb85db2ed1764bb05632b1175cbac53329397c4be05ef2f717b4bd85eb2f517a4bd05e72f31794bc85e3,
  0x14c4a6052f29714b4a545292939494a4852029115d4ae85732b915c4a580732b815bca5056c2919484ada56e,
  0x1584ac05532a91544aa054f2a71534a9854b2a41524abe54a29e94f0a7653a29c94e0a6e53629a14d4aa8533,
  0xf8c0183e11f98fc8aaa5472a31514a885432a11504a8053e29f9578aba55c2ad9568ab25582ab155cac6562,
  0x10047f23f8020864c3200360000fe93104011fc8fe13200001f425dc0680331fa80c87e83e71f30f947c800e,
  0x4f827a0001f40f887b63e01ef8f787ba3da09f04f425e12e1ee04d42641390bc00d82ec18109c85dc06c176,
  0x5942c92080b2081e40e20690308162c22050b008124082038fe87f21781fc0fdc3023fb0bb80d80003f6,
  0x183cc1c60d306182cc1460830398b0c50624311986cc3466c31004bc7c4621335987cc3c61d30e188931e000,
  0xacc5642b01550aa455003b01d0abc54e2a60250ab00ca2ab01a8ac4c3261830b9858c2a6143099848c22610,
  0x128093e500280945ca2c51528a144ca24511288143ca1c50d286142ca145092841410a0650203101840c0044,
  0x67c3260360c805f806c17b09c80d82ec04302100000a40000b986680001970ba000030404103400d82ea4a1,
  0x127493849b24d126493049724291e087043908904445982cb089843c20a1040d500d834e18a0000634344036,
  0x13f09f04f427993c49e04ef27701040d006601b019c9fe4fe27e912088e446222911088644222090dc86c49e,
  0x12b49784bb25b94689664b225892c095e4ae010007c9584ab25512a49504a728c93e89ec4f527d93e49ee4f2,
  0xb503881c30df8b5c5aa2d00e28b3c36c1b51698b4859c2cd0d88b4438c1ae16b12e496a4b428c12e89704b6,
  0x14789984cb26513249904c7027013498a4c426193089824c028e81040d006601b019c97e4be25e87083822d8,
  0x14709c84e327113849c04df26e93709b64da26c93609ae4d628d934899c4cd28f934c9a24cf26313549a84d0,
  0x41c0a8165028859009e15f0af013009615d02b058c2c40460b085989d44e627293ac9d24e726f13b49d84e8,
  0x5c42e016c0b785b82e616d0b906103060000ba000030417501b05d400000000000b82ce05a02e058025a03e,
  0x60c344036000010c0841ce0e687303961ca0e4872038e1ad00000000a41740cd000074c3a81d38e545e6000,
  0xeb87363991cc0e5c72c39a0bf00d832600009c84b006c35d1b40d8c6c83601af8a1854a1aa01b0628000184,
  0xf107863c21e30f0477e3be1de8ef07803bb1dc8ee076e3b61dd0ed47663b21d88ec07683af1d68eb07563aa,
  0x6943561a90d4069c34c1ac1ec8f5c7ac3d51ea0f607a63d11e80f3c79c3d21e68f2c7943c91e40f3078e3c5,
  0xb782863a01cf8e8c33619a0cc80003301970cb067000018e01b000031a1880c586283120430c3861430c18c,
  0xb805be3731b90dc46e036f0a40d646b016b1aa851861c3311860d1428e0550a2014008e0450a28e907443a1,
  0xdd86683751ba0dec33a1a30d085782c61a00cf867834834a1a48d205d02e71730b945c82e31710b8429816a,
  0x1cc67a2dc02a8b642000f707b0b6873c10b08484087381fd07e83f01f61fb0fd0e746f837a1bc8ce06f0377,
  0x4c2bc0000000bcc5122870e98bcc2c61d00e78a202ae15616e8b6c2982f817b8bd85ea2f41750ba4688343,
  0xd846ba35c1af0d5c6ac34d1a70a1850a3a91d40e9c74c3941c40e1c70c3851c20e0c7043811c00dfc6fc37d,
  0x9006d433c19d0ce467033719b0cd46683331990cec6a83531a90d446a034f1a68d306963661b28d8c6c4360,
  0x9744b42a212c095c4ac255129894854628614c8e987282f302e0a6c53824e12609245342471230914488241,
  0xc3861a30c1858c286123111c90e4472038f1c98e3471838b1c50e386ba36b1430a8474c3940af000054825f,
  0x5702b615a0ac852429014201f850407a041029050027e037021810806c3411a00cfc67c342189015462030f,
  0x9d06d835d1b68a1852a3a61ca057800029813809b833a26b14b09a44d026713309904c629703401980ce146,
  0x7c03c01209a04cc2ec13109804ec50c29d1d30e545e605c14f8a8050227f0d289f053c27a13c89e04ee275,
  0x650326192000064432018f0ca84f827a12f09704d42641810bc05dc00013c01500a404c13a09c04dc26c020,
  0xe9471236e17980b405802801380945161e000e80500141db00007685181790bf85f82fa0360be05ec2f4180,
  0x3056a2b41ad8d9c50c2911d28e2403c00014a08784342171490854426212108883841a2931ad8d6850c28a,
  0xb2058e2c61628b105862c21608b0057e2be0118ae00422b615d0ae40680330190af45780f015d83b801c2b7,
  0x52c2940350a90d6c6d22861468e9471201e0000a4047823a0bc88dc51c23511a08cc4642301178a3c5942c9,
  0x7480001d10e8073c3aa065032018c0c406103005600881550aa054c2a2150084053c07603a0a7053407004a,
  0x1600801060ff07f41fc0fa0fe07ec3f41ff106082c414208103881840a20410188243b21d80eb87583a81d3,
  0x49824a1240918488226112088844021e10e086841420810308084001fe0f907c03dc1ec10a101080440010c,
  0x7b43d81eb0fa89cc4e427113809b84da19d13609ac4d4269134099c4cc265132098c4de12b09504a4250127,
  0x89c44c170112889044616e0b688a83f21f80fb87d80b41f40f984b40ae1f202a07c43e01ef026012c0ac1ee,
  0x94c4a425e128894049e24e126092c494249124091c48c245122090c484241120093445c22d11608ac452228,
  0x9f834a27d13e09ec4f427913c09dc4ec27513a0a004c4261130097c4ba25c12d89684b225812b89584aa254,
  0x10c06c04202f85ac2d416902e85a00b004001e01540a605001c853009204802381140b22841418a0850227f,
  0x7a03ce1e50f2078c3c403b01d07843be1de02507743b80350f301a00cc06702281780b603f01e81040a4037,
  0x8fc47c23d11e08e847217911c08dc46c23511a08cc46423111808bc476065032018c0c406103007a80881e9,
  0x6c43601af0d706ec444221110087c43c21c10d886843221810b885842a2141098848422210107883841a21d,
  0x39c00e0e607283c838c1c50e2070c3841c10e006fc37c1bd0de06e83721b80db86d836a1b4010007c3661b2,
  0xd006603207a83d01e60f107803bc1dc01c00d806803201800b80581da01307600401d600e07500301d20e8,
  0x8c04402100a804401e00d005802401000600280ac24212008f847423811b08d046423011708b045422811e,
  0x1d4008003072038c1c40e1070037c1bc0dd06e036c1b40d906c035c1ac0d506a034c1a40d101880c005e024,
  0x20c10408104402000fe07e03e81f00f607a03c81e00ee07603a01cc0e407103801bc0dc06d03601ac0d4069,
  0x27c13c09d04e026c13409904c025812a0940498248122097048023c11c08d046022c114089043821810a084,
  0x2e016e0b605a82d01660b205882c015e0ae05682b01560aa05482a014e0a605282901460a2050828018c0d0,
  0x19e0ce06683301960ca064832018e0c5062030c1840c106002fc17c0bd05e02ec1740b9]⟩

/-- The base of each row of nonterminals. -/
def gotoBase : Packed := ⟨2103, 12, 29, #[
  0x1500000000000000000000000000c000000000000000006000000000000000000000, 0x0,
  0x4b000000000000000000000000000000000000000000000000000000, 0x0,
  0x87000000000000000000000000000000000000000000000000000000000000, 0x0, 0x0, 0x0, 0x0, 0x0,
  0x13a13a000000000000000000000000000000000000000000000000000000000000000000000000000, 0x0,
  0x15e15e000000000, 0x0, 0x0, 0x0, 0x0, 0x0, 0x0, 0x0, 0x0, 0x1600000000000d000,
  0x29129129100000000000000000028a13b287287000000000000000000000000000000, 0x0,
  0x17e17e000000000000000000000000000000000000000000, 0x0, 0x0, 0x0,
  0x33d33c33b000000000000000000000000000000000000000000000000, 0x0,
  0x37037037037037037037037037037037037037037037037037037000036e36636b36a36a36736636736613b,
  0x370370370370370370370370370370370370370370370370370370370370370370370370370370370370370,
  0x3bb0000003b80000000003b33b23b23b03b013b3ad3ad13b370370370370370370370370370370370370370,
  0x3d83d713b3d43d413b3cb3d03d03cb3cb3cb3cb3cb3bb3bb3bb3bb3bb3bb3bb3bb3bb3bb3bd3bd3bd3bd3bb,
  0x3f00000000000000000000003e80003e63e50003e33e03e03e03dd3dd3dd0003db3d83d7,
  0x4110000000000000000000000000000000000000000000000000000000000000000000003f90003f7000,
  0x42a000000000000000000000000000000000000000000000000000000000000000414000,
  0x439000000000000000000000000000,
  0x370370370370370370370370370370370370370370370370370370370370370370370370370370370000000,
  0x47f47f47f47f47f47f47f47f000000000000000000000000000000000000000000470000370370370370370,
  0x49f49f49f49f49f00047f47f47f47f47f47f47f47f47f47f47f47f47f47f47f47f47f47f47f47f47f47f47f,
  0x49f4bf49f4bd49f49f49f49f49f49f49f49f49f49f49f49f49f49f49f49f49f49f49f49f49f49f49f49f49f,
  0x4db4db4db4d94d913b4d700000000049f49f49f49f4cf49f4cd49f4cb49f4c949f4c749f4c549f4c349f4c1,
  0x4f14f14f14f14f14f14f14f14f14f10004ef0000000000000000000000000000000000000000004dd4db4db,
  0x5135135135135130000000000000000000000000000005084f14f14f14f14f14f14f14f14f14f14f14f14f1,
  0x513513513513513513513513513513513513513513513513513513513513513513513513513513513513513,
  0x54f00054d000544544544544544544544544000000513513513513513513513513513513513513513,
  0x56656656656656656656656656649f56056056056056026b55d55d55a55b55a55855800055600026b000000,
  0x58458458458458458458458400058258157f57f26157c57c57a57a57857826157657557357356d566566566,
  0x584584584584584584584584584584584584584584584584584584584584584584584584584584584584584,
  0x5ba5ba5ba5ba5ba5ba5ba5ba5ba5ba5ba5ba58e5b85845b65845af5b05af5b05af5af584584584584584584,
  0x5e05e05e05ca5de5ca5ca5ca5ca5ca5ca5ca5ca5ca5ca5ca5ca5ca5ca5ca5ca5ca5ca5ca5ca5915c85ba5ba,
  0x5fb5fb5fb5fb5fb5f95f95845f75e85e85e85e85e85e85e85e85e85e85e85e85e85e85e85e65e65845e05e0,
  0x6176176176176176176156155846135fb6115fb5fb5fb5fb5fb5fb5fb5fb5fb5fb5fb5fb5fb5fb5fb5fb5fb,
  0x37063763762a62a62a62a62a62a62a62a62a62a62a62a62a628628584626617617617617617617617617617,
  0x64864864864864864864864864864864864864864864863b63a63a64064064064064063a63a63a63a63a63a,
  0x67167167166666666666666666666666666666666663b649648648648648648648648648648648648648648,
  0x68568568568568568568568568568568568563a681681681671671671671671671671671671671671671671,
  0x685685685685685685685685685685685685685685685685685685685685685685685685685685685685685,
  0x685685685685685685685685685685685685685685685685685685685685685685685685685685685685685,
  0x6dd6dd6dd6dd6dd6dd6dd6dd6dd6dd6dd63e6da6da6d86d86a3688686686685685685685685685685685685,
  0x6fd6fd6fd6fd6fd6fd6fd6fd63d6de6dd6dd6dd6dd6dd6dd6f46dd6dd6dd6dd6dd6dd6dd6dd6dd6dd6dd6dd,
  0x6fd6fd6fd6fd6fd6fd6fd6fd6fd6fd6fd6fd6fd6fd6fd6fd6fd6fd6fd6fd6fd6fd6fd6fd6fd6fd6fd6fd6fd,
  0x72572572572572572572572572572572572572572572572572572572572572572572572572572563f6fe6fd,
  0x74474474474474474474474474474474474474474474474474474474474774774474474463c726725725725,
  0x77577577577576d77277276d77076d76d76d63a76a76a685768681766748745744744744744744744744744,
  0x775775775775775775775775775775775775775775775775775775775775775775775775775775775775775,
  0x79d79d79d79d79d79d79d79d79d79d79d79d79d79d79d79d79d79d79d79d79d79d775776775775775775775,
  0x7bc7bc7bc7bc7bc7bc7bc7bc7bc7bc7bc7bc7bc7bc7bc7bc7bc7bc7bc7bc77579e79d79d79d79d79d79d79d,
  0x7ec7e77e87e87e87e77e17e27e27e27e27e16717df7bc7db7dc7db7bc7bd7bc7bc7bc7bc7bc7bc7bc7bc7bc,
  0x8097fb7fa7fa7fa7fa7fa7fa7fa7fa7fa7fa7fa7fa7fa7fa7dd7f77f777d6d97f47f37ec7f17f07e27ed7ed,
  0x8198198198198198198198198198198198198198197fb8098088078068058048038028018007ff7fe7fd7fc,
  0x83483482c819819819819819819819819819819819819]⟩

/-- Where the overrides of each row of nonterminals begin. -/
def gotoFirst : Packed := ⟨2104, 13, 27, #[
  0x6002e01600a8050026012008804001e00e006803001600a004802000e00600280100060020008000000000,
  0xcc06403101800bc05c02d01600ac054029014009c04c025012008c044021010007c03c01d00e006c034019,
  0x13809a04c0258128092048023811808a044021810808204001f80f807a03c01d80e807203801b80d806a034,
  0x1a40d006703301940c806303101840c005f02f01740b805b02d01640b005702b01540a805302901440a004f,
  0x21010608204082000fe07e03e81f00f607a03c81e00ee07603a81d00e607203881c00de06e03681b00d606a,
  0x27c13c09d04e026c13409904c025c12c09504a024c124091048023c11c08d046022c114089044021c10c085,
  0x2e81720b805b82d816a0b405982c81620b005782b815a0ac05582a81520a8053829814a0a405182881420a0,
  0x3541a80d306903441a00cf06703341980cb06503241900c706303141880c306103041800bf05f02f41780bb,
  0x3c01de0ee07683b01d60ea07483a01ce0e607283901c60e207083801be0de06e83701b60da06c83601ae0d6,
  0x42c214109084041c20c105082040c20410108003fc1fc0fd07e03ec1f40f907c03dc1ec0f507a03cc1e40f1,
  0x49824a124091848824212008f847823a11c08d846823211808b845822a1140898448222110087843821a10c,
  0x50428013f09f04f427813b09d04e427013709b04d426813309904c426012f09704b425812b09504a4250127,
  0x5702b615a0ac85602ae1560aa85502a61520a8854029e14e0a6853029614a0a4852028e1460a28510286142,
  0x5dc2ec1750ba05cc2e41710b805bc2dc16d0b605ac2d41690b4059c2cc1650b2058c2c41610b0057c2bc15d,
  0x6483221900c7863831a18c0c586283121880c3861830a1840c186083021800bf85f82fa17c0bd85e82f2178,
  0x6b43581ab0d506a43501a70d306943481a30d1068434019f0cf067433819b0cd06643301970cb0654328193,
  0x72038e1c60e287103861c20e0870037e1be0de86f03761ba0dc86e036e1b60da86d03661b20d886c035e1ae,
  0x78c3c41e10f0077c3bc1dd0ee076c3b41d90ec075c3ac1d50ea074c3a41d10e8073c39c1cd0e6072c3941c9,
  0x7f83fa1fc0fd87e83f21f80fb87d83ea1f40f987c83e21f00f787b83da1ec0f587a83d21e80f387983ca1e4,
  0x86443021710b0854428213109084442020f107083441820b1050824410207103081440820310108044001ff,
  0x8d046623211888c045e22e11688b045622a11488a044e2261128890446222110888043e21e10e887043621a,
  0x93c49c24d126092c494249124091c48c245122090c48424112008fc47c23d11e08ec47423911c08dc46c235,
  0x9e44ee27513989c44de26d13589a44ce26513189844be25d12d89684b225812b89584aa25412989484a2250,
  0xabc55a2ab1548a9c54a2a31508a7c53a29b14c8a5c52a2931488a3c51a28b1448a1c50a28314089fc4fa27b,
  0xb7c5ba2db16c8b5c5aa2d31688b3c59a2cb1648b1c58a2c41618b085802be15e0ae85702b615a8acc5642b1,
  0xc546263111878c346163091838c1460630117f8bf45f62f917b8bd45e62f11778bb45d62e91738b945c62e1,
  0xd2c6923471a28d0c68233f19e8cec67233719a8ccc66232f1968cac6523271928c8c64231f18e8c6c632317,
  0xe046fe37d1bd8de46ee3751b98dc46de36d1b58da46ce3651b18d846be35d1ad8d646ae3551a98d4469e34d,
  0xedc76a3b31d88ebc75a3ab1d48e9c74a3a31d08e7c73a39b1cc8e5c72a3931c88e3c71a38b1c48e1c70a383,
  0xfb47d63e91f38f947c63e11ef8f747b63d91eb8f547a63d11e78f347963c91e38f147863c11df8ef47763b9,
  0x108c84241f20e906c83241720a904c82240f206902c812407202900c8023ff1fe8fec7f23f71fa8fcc7e23ef,
  0x11648ae455229914489e44d225912488e445221910487e43d21d90e486e43521990c485e42d21590a484e425,
  0x120890248023f91f88fa47c23d91e88f247623a91c88e247023791b48d846b235119c8ca463230917c8ba45b,
  0x127493849b24d126493049724b1254928493249124492048f247123491848b24512249104872431214908483,
  0x12ec9724b825a92d09664b225892c095e4ae25692b09564aa25492a094e4a625292909464a2250928093e49e,
  0x138c9c44e1270137c9bc4dd26e136c9b44d926c135c9ac4d526a134499c4cd265131c9884c3261130497e4be,
  0x1434a145092839418a0a50328114049fc4fd27d93e89f24f827a93cc9e44ef27693b09d64e9274139c9cc4e5,
  0x1548a9e54c2a49518a8654029f94f0a7653829a94c8a5e52c29494a0a4a52228f9470a325162899448a1e50e,
  0x167cb385992cb164cb2058d2c61624b0c5852c115fcaf85792bb15ccae056d2b5159cac85612af156cab0555,
  0x17b8bd65e82f29788bbe5dc2ec9758ba65d02e69730b925c62e19700b7a5ba2db96d0b625ae2d596a0b4a5a2,
  0x18f8c7663831a98c8c5e62c3149898c4662030e9868c2e6143089838c166083029808bfe5fc2fc97dcbe85f1,
  0x1a3cd186893431a0cd0067d33d19dcce867133719accd0665331197ccb865932b194cca064d325191cc88641,
  0x1b38d9a6cc3659b28d926c83639b18d866c035e9ae8d6e6b43589ab8d566a83529a88d3e69c34d9a60d2a692,
  0x1bfcdfc6fd37e1be4dec6f33781bb4dd46e73721b84dbc6db36d1b64db06d736b1b54da86d33691b44da06cf,
  0x1c6ce3271838b9c58e2a7143899c48e227103879c38e1a70c3859c28e127083839c18e0a7043819c08e02700,
  0x1d38e987493a31d0ce8073d39d1cdce6c7343999cc4e6072e3969cace547283939c94e487223909c7ce3c71c,
  0x1e78f3a79c3cc1e5cf2678f3c59e1cf0677f3bd9ddcee676f3b59d9cec675f3ae1d64eb07573ab1d54ea6752,
  0x1f48f9c7ca3e31f08f7c7bc3dc1ed8f687b23d81eb8f587ab3d51ea4f507a73d31e94f487a33d11e84f4079f,
  0x204902080e406202901080640220090007fe3fe1fe8ff07f63fa1fc8fe07ee3f61fa8fd07e63f11f78fb47d6,
  0x21990c285c42ca1590a6850426a12908e844420a0f907683841aa0c905e82c414a09904682040ea06902e814,
  0x238d1be8db469a33d18e8be45d22c915e8a9451a279132894447a23110e88343f21e50e886f43521a50d0867,
  0x263d31a98c4be25d92e49644af254129494449f24e126492c493248123491448724211f48f847b23d11e48f0,
  0x27753b89db4ed27653b09d74eb27553a89d34e927453a09cf4e727353989ad4d626a934e9a64cb2651326990,
  0x27e53f09f64faa7d13e69f24f8a7c13de9ee4f6a7b13d69ea4f4a7a13ce9e64f2a7913c69e24f0a7813be9de,
  0x28a5450a24510a875438a1b50d2865430a1750b2855428a135092845420a0c504a8154049ff4fea7f13f69fa,
  0x29e14c4a5d52c294d49ca4952128fd476a3a51ca8e146ea3651aa8d1466a32518a8c145ea2e516a8b1456a2a,
  0x2b05580abf55f2af5578abb5582abd532a965492a45520a8f5472a35518a8b5452a25510a875432a15508a79,
  0x2c11606b02580ac015feaf4579ab755b4ad6569ab4159eace566ab31596aca564ab2158eac6562ab11586ac2,
  0x2d19684b415a02cfd67cb3d59e2ced674b3959c2cdd66cb2b5952c51622b0d5862c2d614b095842c1d60cb05,
  0x2e4d724b915c82e3d71cb8d5c62e2d714b895c3ae15706b825c0ae016feb7e5be2ded6f4b795bc2ddd69cb49,
  0x2fa17c2bda5e9af3178abbe5dbaec1756ba95d3ae95746ba15cfae7973ab9c5cdae69732b985cbae5972ab94,
  0x30f1876c3a61cb0bd858c296133079834c1760a3049820c0e606b031816c0a604b02180ec06602aff57ecbef,
  0x31618acc5562a314d8a4c51628313d89cc4d626312d894c49624311d88cc45622310d884c4162030fd87cc3d,
  0x3239918c8a6443219908c8264031f98f8c7a63c31d98e8c7263831b98d8c6a63431998c8c6263031798b8c5a,
  0x33999c4cd9669b339992cc6661b30197acba65bb2d1962cae655b2a194aca264fb271934c9864b3251924c90,
  0x3449a20d0f6873435a18d0b6853425a10d076833415a08d036813405a00cff67f33f59f8cfb67d33c19dacec,
  0x3501a7ed3e69eb4f1a76d3a69cb4e1a6ed3669ab4d1a66d32698b4c1a5ed2e692347da3ad1b68cb45da2ad13,
  0x35b9adad6c6b5b5a9ad2d5f6ad3561aacd546a93541a9cd4d6a6352da94d496a4351da8cd456a2350da84d41,
  0x3671b36d916c63629b10d866c23609b00d7f6bf35f5af8d7b6bd35e5af0d776bb35d5ae8d736b935c5ae0d6f,
  0x36e5b6edb56da36cdb64db16d836bdb5cdad6d636adb54da96d4369db4cda56d2368db44da16d0367db3cd9d,
  0x38cdc64e3171838bdc5ce2d709b849c22e0f7073831c16e0a6fab7c1bd6ddf6eeb749ba0dc66e0b6fdb7adbb,
  0x3945c9ee4d725b929c92e48723b919c8ae44721b909c82e4071fb8f9c7ae3c71db8e9c72e3871bb8d9c6ae34,
  0x39f9cfae7c73db9e9cf2e7873bb9d9ceae74739b9c9ce2e70737b9b9cdae6c735b9a9cc0e5b72cb95dcaae53,
  0x3ab1d56eaa754baa1d4eea6752ba91d46ea2750ba81d3ee9e74eba71d24e8d745ba25d0ee85741ba05d00e7f,
  0x3c95e34f1978c3c5de2cf0d7773bb1db6ed976bbb55d88ebf75ebaedd72eb775abacdd64eb17583abdd5cead,
  0x407a03b01c80dc06a03301880bc059feafe97efbf01f42f9c7ccbe09f02f7f7b93da1ec4f597a6bd09e70f2e,
  0x40ea07303881bc0da06903381940c606102f81740b605902b81540a60510278134096049023811408604101f,
  0x1075837c1b60bb05a82c415a0a9052828413a09904a824411a089043821410608103f81f40f607903b]⟩

/-- The variable that an override concerns, counted from the first one. -/
def gotoColumns : Packed := ⟨4213, 8, 44, #[
  0x141414141414ce8f8f8f8f14b15eb1b15e5eb1aac75e5e485a5eb1b114145e5e485a5eb1b1b18fb115142a14,
  0x14141414141414141414141414d7b114141414dada141414da14d6d614141414141414141414141414141414,
  0x51515151515151515151515151148f14510e141451c80e0e0e0e0ed6dadad6dadad6dadad6dadad6dadad614,
  0x5151515151515151515151515151515151515151515151515151515151515151515151515151515151d7b151,
  0x5151515151515151515151515151515151515151515151515151515151515151515151515151515151515151,
  0x5151515151515151515151515151515151515151515151515151515151515151515151515151515151515151,
  0x5151515151515151515151515151515151515151515151515151515151515151515151515151515151515151,
  0xcfd8d851cdccd7cdccd651d7b7d551b6b7d5c951c50aced0cfcac5c50ad0cf141414141414c7c7c851515151,
  0x6d6dc3c9b2db5e14d338c4c359db79b6cac9d3c8c7c7c8b57f030a1ad0cfd0cfd0cfd0cfd0cf0acac5c50ad0,
  0x2b2b2b1ab5b6030a1ac9c9dcc95edcc95edcc95ed3c7d8b2dcc9b25edbc9d3c7c87fd8dc8f596d6dd8b2dcc4,
  0x146262146262626362141463621462146262625e635e1414626362142b848f2f0a841414621a260a0a63142b,
  0x62631414141414141414141414141414141414141414626314141414626214621462626214638f6362626214,
  0x2b2b2b621462146262636262146262626214621414626262626262141462146262625e5e1414626284841414,
  0x5eb15ec25fb15eb15eb15e2a292b63636363631a2b2b63636363636363636363636314631463633863631a0a,
  0x59b059b059b15eb15eb15eb059b059b059b059b15eb15eb15eb15ec25fb15eb15eb15eb15eb15eb15eb15eb1,
  0xb563b0a1b0a1b0a1b0a1c7b563b0b0b0a1b059b059b059b059b059b059b059b059b059b059b059b059b059b0,
  0x518f518f518f518f518f518f518f518f518f518f518f518f518f518f518f518f518f518f518f515151518f51,
  0x518f518f518f518f518f518f518f518f518f518f518f518f518f518f518f518f518f518f518f518f518f518f,
  0x518f518f518f518f518f518f518f518f51b8b7b8b7b15e8f51393839388f518f518f518f518f518f518f518f,
  0x518f518f518f518f518f518f518f518f518f518f518f518f518f518f518f518f518f518f518f518f518f518f,
  0x518f518f518f518f518f518f518f518f518f518f518f518f518f518f518f518f518f518f518f518f518f518f,
  0x518f518f518f518f518f518f518f518f518f518f518f518f518f518f518f518f518f518f518f518f518f518f,
  0x518f518f518f518f518f518f518f518f518f518f518f518f518f518f518f518f518f518f518f518f518f518f,
  0x559053938d15bd99cd15bd99cd15bb15e8f518f518f518f518f518f518f518f518f518f518f518f518f518f,
  0x63b563b563b5630c0bd99cd99c3938d99c3938b282d99c3938d99cb282d99c39383938d15b590559058f5159,
  0x6346c7b563468888c7c8c7c7c7886b6a5961606160b563b563b563b563b563b563b563b563b563b563b563b5,
  0x46464646464646464646464646464646464646464646464646464646464646464646464646464646464646b5,
  0x34307e7e59387e59387e59387e7e38c8c7c77e5938c8c7c77e59384646464646464646464646464646464646,
  0xc7c7c7886b6a59c8c7c76b6a59b15e5e5eb15e5e5e5e5eb148c9c9c9c9c9c9c9c9b18f8f8f8fcec9b15e4852,
  0x6b6a596b6a596b6a596b6a596b6a596b6a596b6a59886b6a5914886b6a595eb15e5e5eb148b1ceb15e4888c8,
  0x6a596b6a596b6a596b6a596b6a596b6a596b6a59886b6a59886b6a596b6a596b6a596b6a596b6a596b6a5988,
  0x596b6a596b6a596b6a596b6a596b6a596b6a596b6a596b6a596b6a596b6a596b6a596b6a596b6a596b6a596b,
  0x596b6a596b6a596b6a596b6a596b6a596b6a596b6a596b6a596b6a596b6a59886b6a596b6a59886b6a596b6a,
  0x6a596b6a596b6a596b6a59886b6a596b6a596b6a596b6a596b6a596b6a596b6a596b6a596b6a596b6a596b6a,
  0x6a596b6a596b6a596b6a5988876b6a596b6a596b6a596b6a596b6a596b6a596b6a596b6a596b6a596b6a596b,
  0x596b6a596b6a596b6a596b6a596b6a596b6a596b6a596b6a596b6a596b6a596b6a596b6a596b6a596b6a596b,
  0x8f51468f51468f51468f51468f51468f51468f51468f51468f51468f51468f51468f51466b6a596b6a596b6a,
  0x51468f51468f51468f51468f51468f51468f51468f51468f51468f51468f51468f51468f51468f51468f5146,
  0xa2938fb5b282b5b282a2938fa2938fa2938fa2938f6d5905045905048f51468f51468f51468f51468f51468f,
  0x51468f5146464646464646464646464646464646464646464646b56346523430523430c62827c62827a2938f,
  0x46464646464646464646464646464646b563468f51468f51468f51468f51468f51468f51468f51468f51468f,
  0x46468f46468f46468f46468f46468f46468f46468f46468f46468f46468f4646464646464646464646464646,
  0x59886b6a5952343052343013131313c8c7c752343013a080a080387261607261608f51468f51468f51468f51,
  0x59856b6a59886b6a59856b6a59886b6a59886b6a59886b6a59886b6a59886b6a59886b6a59886b6a59886b6a,
  0xd4b8b7b1d4b1d4b1d4b1d4b1d4b1d4b1d4d4d4d4d4d4d4d4d4d4d4d4d4d4d4d4d4393c360d6d0d5905856b6a,
  0x6240797762408f8e8d8c8f8e8d8c8f8e8d8c8f8e8d8c8f8e8d8c8f8e8d8c8f8e8d8c8f8e8d8c8f8e8d8cd4b1,
  0x6240624062406240624062406240624062406240624062406240624062406240624062406240624062406240,
  0x6240b56240b56240b56240b56240b56240b56240b56240b56240b56240b56240b56240b56240b56240b56240,
  0x36353a3a3a3a37cb3b363588876b6a59b56240b56240b56240b56240b56240b56240b56240b56240b56240b5,
  0xa5a4a307a6a5a4a307a4a307a6a5a4a3073d3b3635373d3b36353acb3b36353acb3b36353acb3b36353acb3b,
  0x696632523430c768675388876b6a59686753765909766d590c0b098887676b6a59a6a5a4a307a6a5a4a307a6,
  0xc288876fba706c67d2646b6a59c8696632c86966326b6a598887686753c7686753c8c76867536966326b6a59,
  0x6f01bab9b4b36f01bab9b4b36f01bab9b4b36f01c288875f6b6a5946bab9b4b36f01d264d264d264d264d264,
  0xb4b36f01bab9b4b36f01bab9b4b36f01bab9b4b36f01bab9b4b36f01bab9b4b36f01bab9b4b36f01bab9b4b3,
  0x6753c8c7686753696632bab9b4b36f01bab9b4b36f0188876b6a59686753696632523430bab9b4b36f01bab9,
  0x7c7b7a7144423f121106c8c7c7060302c7c8c706c27d8683817f7c7b7a7144423f121106bab9b4b36f01c768,
  0xb5acbfbebcbbb2b0afaeadaba9a8a7a09f9d9bc0bd9e9a9491908063593807c7c8c706030206c27d8683817f,
  0x9b94949494949494949494949494949494949494949494949494949494949494949494949494949494949494,
  0x94a192b094a19294949494949494949494949494b590630794a192b094a192b0a1929491909e9b949494949b,
  0x969599989796959998979695946694a192b094a19294949494949494949494949494949494949494b5906307,
  0x9063079bacbfbebcbbb2b0afaeadaba9a8a7a09f9d9b94805938999897969599989796959998979695999897,
  0xafaeadaba9a8a7a09f9d9b9480593894a192b094a1929494949494949494949494949494b59bc0bd9e9a9491,
  0x92949190949494949494949494949494949494949494949494b59bc0bd9e9a94919063079bacbfbebcbbb2b0,
  0x94b59bc0bd9e9a94919063079bacbfbebcbbb2b0afaeadaba9a8a7a09f9d9b9480593894a192b094a192b0a1,
  0x79bacbfbebcbbb2b0afaeadaba9a8a7a09f9d9b9480593894a192b094a19294949494949494949494949494,
  0x3b352e2d2c6e4d4c2b07a19492919094a192b094a192949494949494949494949494b59bc0bd9e9a94919063,
  0x634646464646b5634646464646c25f4f4a46375234305d5c5a59494543413e332f7d75747357565554504e4b,
  0xa6a5a4a3072c142c142c142c142c142c142c2c2c2c2c2c2c2c2c2c2c2c2c2c2c2c2c2c2c2c2c2c2d2cb563b5,
  0x4c2b5234306e4d4c2b5234306e4d4c2b5234306e4d4c2b5234306e4d4c2b5234306e4d4c2b6e4d4c5234302d,
  0x65656566656e4d4c5234305234306e4d4c2b5234306e4d4c2b5234306e4d4c2b5234306e4d4c2b5234306e4d,
  0x2c6e4d4c2b8a89478a89478a8947c28b8887658a8947c2888765ca6531ca6531653188656531656588656565,
  0x582c582c582c582c532c2c2c2c2c2c2c2c2c2c2c2c2c2c2c2c2c2c2c2c2c2c2c2c2c2c2c2c2c2c4f5234302d,
  0x2c14582c582c582c582c582c582c582c582c582c582c582c582c582c582c582c582c582c582c582c582c582c,
  0x2458532c58532cc9532cc9532cc9532cc9532cc9532cc9532cc9532c582c582c582c2c142c142c142c142c14,
  0x312c66656e4d4c315234306e4d4c523430a6a5a4a307a6a5a4a307582c24582c24582c24582c24582c24582c,
  0x2c2c2c2c2c2c2c2c2c2c2c2c2c2c2c2c2c2c2c2c2c2c4f5234302d2c6e4d4c2bc9532c2ccac96553312c6553,
  0x2c2c2c2c2c2c2c2c2c2c2c2c2c2c4f5234302d2c6e4d4c2ba6a5a4a3072c142c142c142c142c142c1478782c,
  0x5234302d2c6e4d4c2ba6a5a4a3072c142c142c142c142c142c142c2c2c2c2c2c2c2c2c2c2c2c2c2c2c2c2c2c,
  0x4d4c2ba6a5a4a3072c142c142c142c142c142c142c2c2c2c2c2c2c2c2c2c2c2c2c2c2c2c2c2c2c2c2c2c2c4f,
  0x142c142c142c142c142c142c2c2c2c2c2c2c2c2c2c2c2c2c2c2c2c2c2c2c2c2caaaa2c2c2c4f5234302d2c6e,
  0x11585234302c6e4d4c2b241211582c584f6e4d4c465234302c2baa2cca66656e4d4c31523430a6a5a4a3072c,
  0x2c6e4d4c2b4646b563c7c8c74646c24a465d5c5a59494543413e332f2d2c6e4d4c2b07582c241211582c2412,
  0x2c2c2c2c2c2c2c2c2c2c2c2c2c2c2c2c2c2c2c2c2c2c2c4f4a375234307d75747357565554504e4b3b352e2d,
  0x2c2c2c2c2c2c4f465234302c6e4d4c2ba6a5a4a3072c142c142c142c142c142c14582c582c2c2c2c2c2c2c2c,
  0x4f465234302c6e4d4c2ba6a5a4a3072c142c142c142c142c142c142c2c2c2c2c2c2c2c2c2c2c2c2c2c2c2c2c,
  0x3f121106a6a5a4a3072c142c142c142c142c142c142c2c2c2c2c2c2c2c2c2c2c2c2c2c2c2c2c2c2c2c2c2c2c,
  0x9080635938072c06c27d2c8683817f7c7b7a7144423f121106c27dc27d2c06c27d2c8683817f7c7b7a714442,
  0x4d4c5234300794949494c2948b8887658a8947b5acbfbebcbbb2b0afaeadaba9a8a7a09f9d9bc0bd9e9a9491,
  0x465234302c6e4d4c2b074f465234302c6e4d4c2b4f465234302c6e4d4c2b94596e4d4c5234302c946665596e,
  0x5234302c2b074f465234302c6e4d4c2b9e9b9459582c94596e4d4c5234302c594f6e4d4c465234302c2b074f,
  0x5938079998979695c9532ccac9b599989796959490666563536e4d4c315234302c0794582c59584f6e4d4c46,
  0xa09f9d9bc0bd9e9a9491908063593807b5acbfbebcbbb2b0afaeadaba9a8a7a09f9d9bc0bd9e9a9491908063,
  0x17161410080601594f465234302c6e4d4c2b074f465234302c6e4d4c2bb5acbfbebcbbb2b0afaeadaba9a8a7,
  0xc2c20fc20f0f0f0f0f0f0f0f0f0f0f0f0f0fc2584f465234302c6e4d4c2b0f2524232221201f1e1d1c1b1918,
  0xc10fc10fc10fc10fc10fc10fc10fc10f0f0f0f0f0f0f0f0f0f0f0f0f0f0fc27d0fc2c2c2c2c2c2c2c2c2c2c2,
  0xc7686753c10fc10fc8c788876b6a59686753696632523430c10f00c10fc10fc10f]⟩

/-- The state that an override puts. -/
def gotoValue : Packed := ⟨4213, 13, 27, #[
  0x2d3d6c7631a18a14d06521a40b1e1cf0c78035a9b4cd1e66ca0a995cbfa5fc2fb321e9d2b6019f0e246840e6,
  0x54f2a7751ca8d54eaa7350da85d4e2a6f4faa7c536aa6d4d8a5ab9a20970037ff3f36258d7066d3231adec58,
  0x294d4a4a3351929454a11a7a02a8b945aa4f5273be5deea4d5162931ddaa4b92a493ea6b533a98d4f6a55528,
  0x52b691f48ea2ebd31e974597a3bd1a8a0f427a0d121e7af3ca1dbcc9e5942a52c295d4aca4652aa95147aa3c,
  0x46a280d2ba95acab65592ab9544a8a5372969464a2e5052789398bfa9d20f093253485f60ec924505e9614ae,
  0x4c3661530597f4be65eb2f4979cbca5e32ee974cb8a5c32e096ecb665a92d0967cb3a5972c79634b1657d2bb,
  0x4cf267733a99ccce266b334999ccc265932b9954c9e64d3259924c8e64131f98dcc6663131798b4c4e61f30e,
  0x4e026fb3799bc4dde6e93709b5cd9e6cd3659b14d7a6bb35c9accd626af3569aacd4a69d34d9a64d2668b340,
  0x4e9e7493a09cfce7a73739a9ccce6272f3969cace4a7233909c7ce3a71938b9c54e267113879c24e0e705381,
  0x4f4679d3cd9e64f2678b3c49e1cf0277f3be9decef27733b89dbceda76b3b49d9cec275f3ae9d6ceb27533a8,
  0x4fc27df3ee9f6cfb27d73ea9f4cfa27cf3e69f1cf8a7c33e09efcf7a7bb3dc9edcf6a7b33d89eacf527a73d2,
  0x522a2f917b45e22da2848a889f228e82d224912d0068013ff9ff4ff67f93fb9fd4fe67f13f79fb4fd67e53f1,
  0x50b24db4ef8dac6d235d1ad8d6468a9fd1a9a76c67a9c14c7a63464e30b4ba8c8d2a631d1878c348ce307182,
  0x48ba453228913c89abe231b8bf521c0471ea8f4c79a3cb1de8eec75a3ab1ce8e6d55e8391c48e1d52e3831c0,
  0x4a16c5f62ba7b53d64dc363935c9669a94d392b494c6912505a70be2497245921c8fe31f238b01c85e469232,
  0xce8b9458a2ad13d9b3449a2397ee88143a62bd0ce86542d87950ae8530df3c2d07a83741aa0cd062183288,
  0x58741d434117b8cf648f4b17c30cb06548294138094644f6fa44bb14596024a3c808804204ab9cd052385549,
  0x21f90fa87c43d8c005fe2fd43d03c9f72361078a1d6c500ef537a6e90c686117ca17d0b8f9e276214909e84d,
  0x28e5470a3751b28d54683051c1b885462a305178c1138e88d4460c0c60437907a8dc81e963ca83b8093849c0,
  0x439cd3c69b5671a38d12686450c36a1910c63319985a6ea49524291d48aa44521a909482a4051fa8f9476a3a,
  0x22f917a8bb459b3562146af35744162068ae87f22b4d586ab3551aa61f30f835422aa1e08a93522298d446a0,
  0x5c2ee0f704b74db76db76c5b5cdaded3d692b48451acef1438a0d9ae84913cb3400d6a9403401900c51828c0,
  0x1810c066023009800bfe5d13321324a094a0274b2397f8b6559e0c945ce056ba2c5c6e8716fb9f8130096049,
  0x592ec93648b235916c876436482ff991ebfd5b3acf96ccb3d54aab2aaa4acc3c79e38f1a78c3c59e28e9882a,
  0x5b26d916c6b635aa2d4f6a5b525a8ad4369fb4fda06d0167eb3ed9eecf5678b3c3559962d55658355195f64c,
  0x5b70c8b6b8653da44fb166a69cd05a9c6df5ba0dc16c40b64b79dbcade16efb76dbb2dd56eab67db3ad996cb,
  0x3f9653cfe494ebf8e538fe094c3f6651cfc693fbf164fcfc493ebefe4e8fac92fc8adf4d22a7ba3e969c6df5,
  0x4b920412e380dcb6a0312d680bcb560292d1805cafdfe92b27f9cac5fe52b07f5ca95fd52a47f4ca8dfcd29f,
  0x415a65b05198e40ea60f03998340da605035980c0d260103397fc0c25f7027975c09a5d5023973408a5cb021,
  0x31999cec2f8524f1a12f3a1840cdea0f937183ccdb60f136c83acda20d334f8324d1a0c33428304d060bb33d,
  0x3fb254cfe8950bf9e540fe194cbf76528fd8944bf1e500fc0938beb64c5198a62c62e93f4a241ac61292ad75,
  0x4b620332d780b4b4e02b2d2809cb360252cc8084b2601b2c38054af1ff32b87facacdfdf2aa7f74aa5fdb2a7,
  0x40de60703197e40b65ef02b97840aa5df029976c0a25d902597440925cf01f96fc07a5bd01d96e40725b701a,
  0x4cc60b132f82bccba0ab32982a4ca20a53218284c6a0853148204c4607d30c81ecc2e07930981dcc22071304,
  0x41ae6a306a9a841a26970679a5419a6910659a3c18e6890629a1c17e67f05e99f417266f05b99b416a665059,
  0x4dda0ff37583f4dce0fb37283dcdbe0f536e83bcdaa0ed36983a4d920e7363838cd820dd35a836cd520d9353,
  0x426a74b0999d1c2627450969cec2567390949ca424e7270919c6c21a70b0859bfc2126fd0839be420a6f7080,
  0x4f421533cf8544f2e14f3ca8534f2214b3c7851cf0a1453c18504eea13f3b284f4ec613b3ab84e4eaa1373a6,
  0x36198d0ed0768453a29cf247923e41f20ec3761d54ccf50b59fa42d27e70b39f2c2ca7c90ac9ebc2ae7ad0aa,
  0x509e271138b31d555f66fb31a4c945f20f90b055291b20c697923c929e54f2a67533a3254b991ec8f6c1960c,
  0x56e6d275b8b46d6d6cd95b2b32d419c074ebb14d2fec35613b09c5522a91528a95acab2f14e8a75a2eb110e0,
  0x282d41655c3b25d92ec9b2fbc9ac0aed1ae65d12b9573eae25c22b87703adfdb7ab7d6d8ade5aeab776b4,
  0x530e96549daa8550e939492a405caae35734ba5dc8aeaf5e3b8951d1d7d654a0b51d1d7d5e30000002862000,
  0x54a6a3750ca7e53e69e74eca6ed3729af4d0a6252de969583ac0d5feaf5562ab5d546ab552ba8ed43a9f74d9,
  0x5058630306174800000141607283681b35b6ada5652b1b584ac15602afd57babcd5d2add56dab5558eabb532,
  0x5ab6d0d65aafdb9964645d032ad0564b725b92dc4ae17ce866d89b48bba5dc35a178cbc43881c447c4000000,
  0x14167943ca1e50c773f22754e28c672ed1f8d3a67122ecd522a8f45ca2c513e88f43aa14d06e4a69b6,
  0x2f0d4d6abb5deaef577a95c6d09da52b6761a42d2114e917d3a2a052434000000000282d416562afad7d6beb,
  0x3bcdde6ac45f42fa17d0eeb775bbade9ef4f7a7bb9ddceee776dbb6ddb6bcd5e6af3578cbc65e32b01786bc3,
  0x2f417a0bd077fbbfddfeac85f8afc57e2ac75f72fb97dcef877c3be179ebcf5e7af29794bca5e4af25792ef3,
  0x3c29e14f0a5eaaf557aaf07783bc1d7e6bf35f9afc97e4bf2781bc0de06bd45ea2f517a4bd25e92f457a2bd1,
  0x3cc5e62f317953ca9e54f587ac3d61eaef577abbd59eacf567a8bd45ea2f0f787bc3d7eabf55faafd17e8bf4,
  0x348da38d1c68e3435a1ad0d77b3bd9decae96853429a14ee9774bba55bad05682b415e6cf3679b3cd5e6af35,
  0x34a9a52d29694b4a1a50d28693b49da4ed206903481a34d1a68d345da2ed1768b3459a2cd126893449a46d23,
  0x2ae9da8ed476a34d5a6ad3569a34d1a68d33699b4cda64d3269934bda5ed2f69734b9a5cd2d696b4b5a54d2a,
  0x3d65eb2f5979bbcdde6ef127893c49e1af0d786bc11e08f047813c09e04efc77e3bf1de0ef07783b91dc8ee4,
  0x3439a16d0b685b421a10d08683b41da0ead6542b3f99fccfe5e9af4d7a6bce5e72f39796bcb5e5af21790bc8,
  0x347da3cd1e68f3475a3ad1d68cb465a32d1868c3461a2ad1568ab451a28d14688b445a22d0f687b43da1cd0e,
  0x5531a62d31698b4c1a60d3069634b1a58d2b695b4ada4cd266933495a4ad256923491a48d21690b485a3ed1f,
  0x545dfe32afa8abfc255d5147efca5ea24fdc949d441f95284a82bf265075047e1c9f2a06fc293dd409f5d265,
  0x544dfbd295a88bf2250355b8384d7ea5d03f988549605f2faa91c0b25ed521807cb22a3eff895bd461fef2b6,
  0x54b2087315a93c1066255268194bf6a4902e97c548a0232caa90403a58951e7fd4ae6a32ff695a5459fc529a,
  0x3c6de36f1b78c3c61e314afb08584299b21e90f48761433bba9a421e70d5308394d86a5f06f9add4b60a7322,
  0x467633b19d772bb95dcaed776bbb5e94f4a7a53d21a90d48689a431e83ef7f195c8e61990cc86642fe17f0bf,
  0x453e29b13d89cc4da266f137883c2de0aefd778be85f24f847bd3c45e18f0677f3bcaa82d3677349764bb25d,
  0x402a57af087ec4a29e00fc09393bd5f5b263775402e582f097ecca35e02fbf9383bd1f5925e7743e3a498edc,
  0x42b611131e8224b01ff728f74039f5cf2e75738b9b61710af845411a584ffd9483f32b0acd493ac14263af0e,
  0x4005cdefd27e8b9ee11d08d73bc12a092e728003ffdcdcfcf7e739b1f60faf740b9fdcf8e7873a39c21730b6,
  0x2928a0e50725cbf625252917e049de4ecfbf93d49e5f5926193039fa1630b073d4232116e76824411dce7002,
  0x344da26d1367d33e99f4cfb67db3ee37b2498bc46f8000000a0b3739b9cdce8bcca1dfab19b770dc95596acb,
  0x3441a20ac35e3af1d78eafa6913489a44af868db46da36aec6863431a18ac65e62f31798ac25e2af1578aaf4,
  0x5356919222afad7d685113a89d44eaa131af8d7c6bd582bc45e22f124a4f9b7cdbe6d578bbe5df2ef95e0d10,
  0x35ed9e2cf06c9b649b12d886cc365db2cd8f6c73631b06d826beb40da04d016793645b0ed78676bb3def8f7c,
  0x401e00f007803c01a00d0068033f69fb4fda7ed3ef5f7afbd7deb5e9af2cef8c5d27d9dcd956ca362db14d7c,
  0x53301d74bdaf0485905149b8484242121090847c23e11f08f827c13e09f04f827413a09d04e8044022011008,
  0x43a2ad069fab3a28aabc662aa78deaa149c1a7fa1fe9fa301a7a03ce9e0362a7726ee9c4862a6d8bea99e860,
  0x1946a84de84d9d2edbc683aa54374902347f45fd65516958988255f4d5b57c87d55e1157576878d5d4d4356c,
  0x26e69c2df14325379bdc2fca68b7b41dd4cb6f50d1e990de641fd2d9bc82f6a56377c1cf4997481a02aace8a,
  0x43deaeee98351d5bdd2f0e9ab4ba59149566749c37aac8e92341d571d230d2aacba3913d54e6fb0da69e2df2,
  0x32f102ec6f637b1bd8df12088819f1070cbd6643321990cc8571aa25a0cd066833a7517558f74d22c6b0ce99,
  0x2ced61eb0e8cabed5f6afb57dab2fdf68fb47da3ed2238cc0660330198110c65f32f997ccbe32c32f1978cbc,
  0x2efd77ebbf6a432b573eb9e8ef97c0bde5bd2de475d902bfb5a4ad2239e7783bb9b3cd9d1c663631ae3dab5b,
  0x57e2bf15f8a17d0ba85d42e55b2a85bcade56f2d2469234917b73db6916f64a3c3d8ebb75dba3baaf54faa2b,
  0x502ebf35f9afc8000000000000000281b40ca06503241d20d906483241920b905c82db98dcc6e65242921490,
  0x16b4b545aa2d3969cb445a249d2ae54f118891ac8d646aa292d09685772bb95dcc83a41720b905d03a81740b,
  0x3ce9e74f3a79d3ca5e52f29794bca5e5319455f2a98a08be35f1af8df1eedd76ebb75dbaedd76e96bcb5e5ad,
  0x3bb1fa0fd07e83f41fa0fd07a4bd25e92f497a4bd25e88f447a23d11e88f4479fbcfde7ef3f79fbcfde74f3a,
  0x3d15e8af457a2bd01e80f407a03d01e80f3b79dbcede76f3b79dbcade56f2b795bcade56eec7763bb1dd8eec,
  0x3cede76f3b79dbced57eaa75f3af9d7cf491a48d246921490a4857e2bf15f87a53d29e94f4a7a53d29e8af45,
  0xc4062ef3a79d3ce9e74f3a79d503681940ca06483a41b20c906483241720b905bb75dbaedd76ebb75dbaf3b,
  0x42ea1750bd000000282c3118bad1da82d2259120cb5ec43121880c406203101880c406203101880c40620310,
  0x2d31696b38b012d5ac03237a0b48964490bb8ddd6b619b16b85e42ea1750ba85d42ea1750ba85d42ea1750ba,
  0x3bba346ee0a4d2d696aab555aaad556aab555aaad556aab555aaad556aab555aaad556b2b585ac2d616b0be5,
  0x2fd96f31b88dbc6da366b785bbc6ca362bef5b9c6ae354bed5f62fa96d8f945f22d75da4ecd8f0c7663a31c9,
  0x2ef294d4a567a33258611a07d951a68d3465a32ad896c324e8fdc7bde9af488f13d0e3b4f3e8e93ce6394f27,
  0x3cb56d6b6b79c2de56f0b77799adcde60f2f7972db1ea8f537de5709b33701a332fc16eab755de2fa56d6b6b,
  0x480a4031fe8fec7f23f4eb85aebac56f2b785bbbabd6e6eae756bab2342eb9ae4338ae7946479a2dd56eaeaa,
  0x511688b445a1c50e2871438a1c509684b425a12d09649b24d926c93649aedea5f3ac16eab756e3baad6d6b6b,
  0x1db8edc76e3b71db8edc76e3b71db8edc782a131c28edf700a845422a11508a84513689b44da26d13688b445,
  0x1ec8f6279e3ce9e04efa77c3a956bcee67723b91dc8ee474e3b89c2ecbd41d3c21dd0edc76e3b71db8edc76e,
  0x31e58f2c7963cb1e58f2c7963cb1e59134395fcb1eae2a7b53da1ed0e207983cb9e5cfb47d93e89f40f887c3,
  0x320db4eda66d2bf51f44f85adbb1f58f8c7c63e31f1910c555ec5a2a868c8b63f31e58f2c7963cb1e58f2c79,
  0x327d93cc9e62d3255928c9462d3c69e32cd163aafe228b13f89bb2a5950ca6652b28d944c9c64db25d92cc84,
  0x17a4b956b1a2097e8bd85e62f31798bcc5e62f31798bcc5e62f31798bcc5e62f31798bcc5f8a231724bcf71d,
  0x18a0c505cd3069830c186473231750ba664432198dcc6c626312984cc245f72f9d6e8bd65ea2f517a8bd45f2,
  0x3182dad44a6a8b519a82d416a0b505a82d416a0b505a82d416a0b505a82d416a0b505a9f44e655350ae58629,
  0x3599acad65669356dab4d5a6b735b5ad6d6a6b1b589abad5c6a7352da94d3badeb515a88d446a23511a74cd7,
  0x1930c9a64d3269934c9a64d3269934c9a64d3269934c9a64d2d8a8909704b825c12e1d130cb6d7c329a7ac7f,
  0x5c3a992f9db93dd1ee2f71fb8747aca08ba52e7d93997764fb27d93cc9864c3261930c9864c3261930c9864c,
  0x27ad3d49e94f4279d3cc9e54f2278d3c49e14f027793ba9dc4fc27d4b809f7ae5c5bab6713bb93dc7ee8f717,
  0x13c9d6eeb775b97016b6b3b587ac39d389f034627bcd149ee343a7b0cfa9df334a76ccb29f64f9a7c93e29ed,
  0x1648b245922c9595acad6562c89644b22591af2d796bca5902c81640b21468a3451a0b105882c416209e44f2,
  0x165cb2e597b95dcaee565952ca9654b2b723b91dc8cb285942ca1652e3771bb8d964cb265932c9dc4ee27713,
  0x3e29ba0f7527893c49e2eb475a3ad2eb1758bac1660b305982cc5cd6e6b7352cb1658b2c596ba65d32e98597,
  0x484242121027404d8242f7690a45ea4234138dfd04248d4b309c3e324634987d4be3426afbb7d53ea1f4ef8b,
  0x1d1d08e64e5d05c3ee1f70f2e019409e04f027813c2861430a18503e81f40fa5c52e297010c6e884cc23cf66,
  0x208cc9e6a73489a4114067f33c99e0cea67433999c8ce267033799b8d9466d33599a0cbc65b329a4ed286942,
  0x5944e3b750496dd3d25974e495dd3525570c483dc2920b7094825c19205642449d8b910562d440d8950d1230,
  0x19a4cb4659b20a24ac80891b1fa242c7c88fb1ea23ac58880b12219ec46866b112196c3e85bb0420d2c0882e,
  0x510e8848f9a1b50d51f1421a10238647723a418d9a51ed661471daa4e4268d3461a2cd1468834399f8cfa66a,
  0x5d0924e144b9ea4982856264348502c2a84109f598acc48eeb04d82506d45ba2d23f28af45647dd1328968fa,
  0x139e930dcf6e7b73ca5852c2963dc1ee0f70640afed692b48751ad6d676b0f5873a52eb69300a45d6925e146,
  0x5d46ea37512e02024aae5572ab955e82541146d206e4292138bd484a422810923000296693b6e848c49ce4e7,
  0x19664cd189413202100c8054022000ffc7fd3fe1fecff47f93fc1fdcfec7f53fa1fccfe27f03f7a02900ebb6,
  0x2489755748ba45d20b809242b09584ac25615adaced61eb0e74a200cd188023452004d0e7ff33e9fc8cd27ee,
  0x27f13f69fa491a48524091f48da46523091748b2455228913489244522090f487243121690a4fca7d13b29b0,
  0x170135258f2c7963cb1eb5b59dac3d61ce9c48f1a3123a68a48e1a1d23467d48699a521265950027f924a9ff,
  0x26a134c9a54d2268133c99d4ce266d3349994cc265d32c9954ca264d3229904c7a6a93989a75da5d7aebd75e,
  0x2ebeeb975cbae170131858e2c71638b1cb5b59dac3d61ce9c4d19a3134468a4d09a1d33e67d4c919a531c659,
  0x196531a98b4c4a62130e9834c0a6012fe97e4bea5f12f697a4bca5e12ee9764ba25cd2e5627b0b276936298a,
  0x26c6428dd08bd1560ab0558908d1b28d946c5adaced61eb0e750a618d189853452610d0e98233ea5d4cd2971,
  0x4e6bf522c91648b104053f29f94fca7e13409a04d2d0471faef2e809ce4e7273d939b9edcf6e79b7c9e0000,
  0x202d01680b405a02d01680b405a02d01680b3252808a3451a28d1469b9576849904ec27613bbb1a4c4272139,
  0x203501a80d406a03501a80d406a034db86e129494a4a52529b97dd4e992f9da0b489644972fba9c5dd4bf5d4,
  0x1bc0dde6ee3769bb0dd68333751ba0dcc6e53722060dc46e036ead4ce80c6daead756baa80d406a03501a80d,
  0x2140df084e37aa0e4dce830371a0668fc743a3e9d08ed470337e1bed0807563aa9d50ea66f637a1bccde46f1,
  0x1ca4e507273929c90e4673e3ea9ced76f753baa5d52ea873d29d14e8a7453a5adaced61eb0e6f61be90a26f9,
  0x37b0e6e85139b2140e6a84e399a0e4e4c8303912064e7873a39c9ce0e687323989cc0e5e72e3969cb0e5672a,
  0x23a51d08e747323951c88e247023791ba8dc4a2a3f576b72fb985cc2e608ff2ae9574aba55d5adaced61eb0e,
  0x2d6d676b0f5873a7d1e685147921411e284e477a0e51be83046da0652008fe47ba3d51e88f0476a3b11d68ea,
  0x42ea1750ba871c55928d1564a32500696f6b07224cc6203101880c406203101880c406203101880c4062031a,
  0x2d616b0b585ac2f95698b4b59c3e0116560174da5ae1811674ab25b21750ba85d42ea1750ba85d42ea1750ba,
  0x4659ba213308f3d9a42121090852856b4b555aaad556aab555aaad556aab555aaad556aab555aaad556aab59,
  0x1584ac2f393ee12e09704b8b27d93ec9e9e07d880000009d72c3961cb0eeb775bbaddd3d1e08ec474238e10c,
  0x5d72eb975c4bb1638b1c58e2c73a89769727baf5d7aebc9932c7963cb1e58f5d55c5ee91748ba42438ac2561,
  0x49391916044173ce4cec4f027813c2e1f70fb8799ad164ba029614b0a5964e7b83dc1ee07472783a3d75f71f,
  0x5a08e3e8c8aef2e809ce4e7273d939b9edcf6e79b7c9e0e8f5db5d1eea3751ba89fccaae5572ab955e340fb2,
  0x504a8228da90a484eb9324d926c93649b24d76f3389f3917a8b648489ce4e7273c845b9edcf6e7a041d651d0,
  0x31e58f2c7963cb1e58f2c7963cb1e58fac7c63e31f18f8cd163aafe17f31353f45c55d49438a1c50e2871438,
  0x2d556aab555aaad556b2b585ac2d616b0f275a62d2d670f803a7d805bc55b063f31e58f2c7963cb1e58f2c79,
  0x1574aba55d7502edeea7754baa5d50e4e53a29d14e8a754a15ad2d556aab555aaad556aab555aaad556aab55,
  0xc3c61e30f1878c3c61e30f1878c3c61e30f1878c3c61e30f1878c3c61e30f4b32ed6e5f730b985cc11c055d,
  0xe1870a3841be8df06f636d1ab8d0064832318f8c71e9d4735a9d752bab5d5aea9cfca5252929494a6bbe30f,
  0xdec6da3571a00c906462f418fbafc1c946b7af3d79ebcf5e7af3d79ebcf5e7af3d79ebcf5e7af518debc387,
  0x6c03c01e00c806402e017009804c02a0150088044020010006803401600b004802470e3861c28e106fa37c,
  0x503281940c00b805c026013907483556caa16e6373101d20c906483241720b905d772bb95dc007803eba601b,
  0x140d]⟩

/-- Sets of tokens. -/
def tokenSet : Packed := ⟨556, 172, 2, #[
  0x1000000000000004000000000000000000000000000efff7fffffffff3a7fffffffffffe6d7fffffffffff,
  0x2000000000000000000000000000000000000000000a00185fff7ff3087ffffff0000ee6532ff6ffd7efb,
  0xa0000400000000003fd8ff000020050000400012100a0000400000000003fd8ff00002001000040001210,
  0x191ffffff3087c027a00000de6173ff3ffd7deb0000191ffffff3087c027a00000de6173ff3ffdfdeb,
  0x300181fff7ff3087c027000000ce6032ff2ffd7ceb0000181fff7ff3087c027000000ce603eff2ffd7ceb,
  0x181fff7ff3087c027000000ce603aff2ffd6ceb0000181fff7ff3087c027000000ce6032ff3ffd6ceb,
  0x181fff7ff3087c027000000ce6032ff2ffd6ceb0200181fff7ff3087c027000000ce6032ff2ffd6ceb,
  0x80000400000000003fd8ff000020050000400012100000000000000000000000000000000080000000000,
  0x181fff7ff3087c027000000ce6030ff2fbd4cca0200000000000000000000000000000020000402021,
  0x8000a00185fff7ff3087ffffff0000ee6532ff6ffd76fb,
  0x11ffffff3087c027a08000fe65710034287dca0000000000000000000000000000004000000000000,
  0x80002400000000863fffff7fff20056100dc203b10080002400080000863fffff7fff20056100dc203b10,
  0x1fff7ff3087c027008000ce60300034284cca0000001fff7ff3087c027008000ce64300034284cca,
  0xb0001400080000863fffff000020052101cc603a100000001fff7ff3087c027008000ce60300024284cca,
  0x80403400000000863fffff000020056100dc203a10080003400080000863fffff000020056100dc203a10,
  0x200000000000000000000000080003400000000863fffff000020056100dc203a10,
  0x80002400000000863fffff000020056100dc203a100004000000000000000000000000000000000000000,
  0x80002400000000863fff5f000020044100dc202a100000000000000000000000000000000200000000000,
  0x80003400000000863fffff000020054100dc203a10080002400000000863fff5f000020054100dc203a10,
  0x7fff00000000000000000000000000000000000000000000000000000000100,
  0xb0000400000000863fffff000020052001cc603a100000000000000008000000000000000000000000000,
  0x30001000080000000020a00000000021000c233900000001000080000000020a000003005610014003b00,
  0x1000080000000000a000001005610014003b00000001000080000000000a000003005610010003b00,
  0x1000080000000000a000001005610010003b00000401000080000000000a000001001610010003b00,
  0x1000080000000000a000001001610010003b00000001000080000000000a000001001610014003b00,
  0x1000080000000000a000001001410010003b000000000000800000000000000001001410010003b00,
  0x30001000000000000000a000002004200008003900030001000000000000020a00000200420000c003900,
  0x420001000000000000020a00000200420000c001800030001000000000000000a00000000420000c003900,
  0x30001000000000000000a000000004200008003900030401000000000000000a000000000200008003900,
  0x30001000000000000000a000000000200008003900030001000000000000000a00000000020000c003900,
  0x30001000000000000000a0000000000000080039000300000000000000000000000000000000008003900,
  0x420001000000000000000a00000000420000c001800420001000000000000000a000002004200008001800,
  0x420001000000000000000a000000004200008001800420401000000000000000a000000000200008001800,
  0x4200000000000000000000000000000000008001800420001000000000000000a000000000200008001800,
  0x200000000017000100000802420001000000000000000a000000000000008001800,
  0x80002400080000863fff5f000000010100dc203810080002400080000863fff5f000020050100dc200810,
  0x3000000000000000000000000000040000080038000300000000000000000000000000000010008003800,
  0x13000000000902030001000000000000020a000000000200008003900,
  0x42000000000000000000000000000000100080018000000000000000000000000000000013000004000802,
  0x100000000000300000000000000000000000000000000008003800,
  0x2000000000000000000200000000008800000000800080002400000000863fff5f000020050100dc203810,
  0x300000000000000000000000000000040009000000000000000000000000000000013000000000802,
  0x800000000000000000000000000000000000008000000000000000000000000000001000010000000800,
  0x200000000000000000000000000000000018000000010000000000000000000000000000000000000,
  0x10000080000000000000000000000000000000000001800,
  0x181fff7ff3087c027000000ce6032ff2ffd64eb0080010000000000000000000000000000000000800,
  0xb0000400000000863fffff000020052001cc6032100300000000000000000000000000000000008003000,
  0x30000000080000000020000000000001000c2031000b0001400000000863fffff000020052000cc203210,
  0xfff78030000000000000446020000008045a0000003fff78030000000000000446020000008045a,
  0x3000000000000000000000000000000000082000000300000000000000000000000000000010008203100,
  0x2000000000000000000000000000000000080010000300000000000000000000000000000010008200000,
  0x80000400000000863fffff00002005200044200210080000400000000063fffff00002005200044200210,
  0x10000000000008000000000000000000000000000000000000004000000,
  0x80000000000000000000041001000310000000000008000000000000000000004100d0003100,
  0x100000000000000002000000000000000000000000000000100c8001100,
  0x100100010000000000000800000000000000000000010010001100,
  0x40000000110000000000000000000000000000000000100d0000100,
  0x42000000000000000000000000000000000080010000000000000000000000000000000000000010000000,
  0x20000000000000000000000000000000000000080002400000000863fffff000020056100dc203210,
  0xa0000400000000863fffff000020052000cc2032100a0000400000000863fffff7fff20052000cc203310,
  0x1000000000000000a0000000012000000010000a0401400000000863fffff000020052000cc203210,
  0xa0000400000000863fff5f000020050000cc2032100a0001400000000863fffff000020052000cc203210,
  0x2000000000000000000000000000000000880030000a0001400000000863fffff000020050000cc203210,
  0x8000000000000000000004000100030000000000000800000000000000000000410010003000,
  0xc0000000000000000000000000000007fff1000000000000000,
  0x200003fff7c030000003000000446020000808245a080000400000000863fffff000020052000c4203210,
  0x2000000000000000000000000000000000080300000000003fff7c030000003000000446020000808245a,
  0x2000000000000000000000000000000000080000000200000000000000000000000000000000008008000,
  0xa0000400000000863fffff0000200520004c2032100000000000000000000000000000000000000030000,
  0x1000000000000000a000000000600000000200000001000000000000000a000001001610010003900,
  0x410000003000080000400000000863fffff0000200561005c203210,
  0x1000080000000000a0000000006000000010000a0000400000000863fffff0000200520004c200210,
  0x80002400000000863fffff00002005200044201a10080000400000000863fffff00002005210044202210,
  0x80000400000000863fffff000020056000442002100a0000400000000863fffff000020052000cc201210,
  0x800185fff7ff3087ffffff0000ee6532ff6ffd7efb080000400000000863fffff000020052000c4200210,
  0x100181fff7ff3087c027000000ce6032ff2ffd7ceb0000000000000000000000000000000040000000000,
  0x4000000000181fff7ff3087c027000000ce6032ff2fbd6ceb,
  0x80002400080000863fffff7fff200561005c203b100000181fff7ff3087c027000000ce6032ff27fd6ceb,
  0x400000000000000000000000000000000000001fff7bf3087c027008000ce60300024284cca,
  0x2000000000000000000000000000000000000000000000410010003000,
  0x200008000000000000000000000000180008000000001000000000000000000000000000000000000,
  0x200008000000000000000000004100900008000000010000000000000000000000000400000001000,
  0x20000300010000000000000000000000000000008000000,
  0x100180000000000000000000000000000000000000400000003000,
  0x200000000000000000000000004100900028000a0000400000000863fffff7fff200520004c200310,
  0x100008000000000000000000000000000000000000020000000000000000000000000010098002800,
  0x200008000000000000000000000100980028000000000000000000000000000000000000040000000,
  0x800000000000010000000000000000000000000000000001000,
  0x80003400000000863fdfff000020016100dc203a100000000000000000000000000000000000008001000,
  0x3fff7c030000020000000446420000408045a080002400000000863fffff000020056100d8203a10,
  0x30001000000000000000a000000000200008003000000001000080000000000a000000001600010003000,
  0x20000000000000000000200000000004000004000000,
  0x3000000008000000000000000000000100080030000000000000800000000000000000000000000000000,
  0x80000400000000063fffff000020052000402002100a0000400000000863fffff000020052000c8203210,
  0x200000000000000004000000080003400000000863fdfff000020016100d8203a10,
  0x80002400000000863fffff0000200561005c203a10080003400000000863fffff000020016100d8203a10,
  0x80003400000000863fffdf000020056100dc203a10080003400000000863fffff000020016100dc203a10,
  0xa0000000012000000010000000000000000000000002000000000000000000000,
  0xa0001400000000863fdfff000020012000c82032100000020000000000000000000000000000000000800,
  0x20000000000000000000000000410010000800090000400000000863fffff000020052001cc603210,
  0xa0001400000000863fdfff000020012000cc2032100200000000000000000000000000000000080000000,
  0x800000000000000000000000000000a0001400000000863fffff000020012000c8203210,
  0x20000000000000000000000000000008000800080000400000000863fffff000020052100c4202210,
  0xa0000400000000863fff5f000020040000cc2022100000010000000000000000000000000400010001000,
  0xa0001400000000863fffdf000020052000cc2032100a0001400000000863fffff000020012000cc203210,
  0xa0000000002000000030000000020000000000000000000000000410090000800,
  0x181fff7ff3001c000000000ce6012fe239d6ceb0000000000000000000000000000000000000003000,
  0x300000000000000000000000000000000008002000080000400000000863fffff0000200520004c201210,
  0x8000000000000000000000000000001000000000000800000000000000000000400000000000,
  0x10000000000000000000000000000000000000000000410080002000,
  0x400000001000000000000000000000000a000000001200000000000,
  0x80000400000000863fff5f000020050100442012100000000000800000000000000000000000010000000,
  0xa0000000002000100020000000020000000000000000000000000400088000800,
  0x181fff7ff3081c000000000ce6012fe239d6ceb0000000000000000000000000000000000080002000,
  0xa0000000006000000010000a0000400000000063fffff0000200520004c201210,
  0x8000000000000000000000000100020000000000000000000000000000000000010010000000,
  0x80000000000000004100980020000000020000000000000000000000000400088002800,
  0x4000000000000000000000800000000000000000000010010002000,
  0x3000000000000000000000000000000000080000000000013ffffc030000000a00000446460000008145a,
  0x3000030000000000000000000000000000082001000000000000000000000000000000000000008000000,
  0x8000000000000000000000000000002000000003fff7c030000000000000446020000008045a,
  0x1000080000000020a000001001610010003b000a00185fff7ff3087ffdf5f0000ee6012ff6ffd44fb,
  0xa0000010016100100039000000010000000000000008000001001610010003900,
  0x12100000020000000000000000000000000000001000400010001900,
  0x30000000000000000000a0000000002000080039000300010000000000000008000000000200008003900,
  0x420001000000000000020a0000000002000080018000800185fff7ff3087ffdf5f0000ee6112ff67fd66fb,
  0x8000000000000000000012100000022000000000000000000000000000001001010010002b00,
  0x42000100000000000000080000000002000080018000000000000800000000000000001001010010003900,
  0x10420000000000000000000a000000000200008001800,
  0x8000000000000000000000000002000000000000000000000000000000000000000000200000,
  0x4100180020000000000000000200000000000000000200000000002,
  0x1000000000000000000000000000000000000020000000000000000000000000000000000000010001000,
  0xa0000000006000000002000000010000000000000008000000000600000000200,
  0xa0000400000000863fdfff000020052000482012100000000000800000000200000000000010004000000,
  0xa00185fff7ff3087ffdfff0000ee6132ff6ffd66fb0000000000800000000000000001001410010001b00,
  0x1000000000000000000000000000000000080030000080000000000000000200000000000000000001800,
  0x2000000000000000000000000000000000000000008000,
  0x200000002000000004000000000000000000000000000000000000000000000b000,
  0x800000000000000000000200000002004000004000000,
  0x80000000000000000000000000000000000000000000000000000000000000000002000000000002,
  0x8000000002000000000000000040000000000000fff780000000000000004400000000080448,
  0x100000000000000000000000000100000000000000000000000000000000000000001000000001000,
  0x40000000000001a0000000000000000000000000000000000ffff8030000020000000446020000408045a,
  0x4000000000000180000000000000000000000000000000000000000002000000000000000000000000000,
  0x1000000000000000000000000000000000000001000000000800,
  0x90000000000000000000000000000000000000020000000,
  0xffff8030000020000000446021000408045a0000000000000000000000000000000010000000100,
  0x4000100010000000000000000000000000000000000000000100000,
  0x80000000000a0000000006000000010000000010000800000000008000000000600000001000,
  0x400000000000000000000000000000000000000100002,
  0x100082011000100000000000000000000000000000000000003800,
  0x2000000000000000000000000000000000181fff7ff3087c027000000ce6032fe2fbd6ceb,
  0x1000008000000000000000000000000000000004010000000000,
  0x80000000000000040000000000000000000000000000,
  0x4000000000000000000000000000000000000000000001,
  0x8000000000000000000000000000000000000000000000000000000000800000000000000,
  0x200000000000000000000000000000000000000000400000000000000000000000000000,
  0x1000000000000000000000000000000000000000100000000000000000000000000000000,
  0x4000000000000000000000000000000000000000000000000000000000000004000000000000000,
  0x1fff7ff3087c007008000ce60300020284cca000000000000000860027000000000020000c200000,
  0x80002400000000063fdfff000000014100d8203a100000000000000000000000000002000000000000000,
  0x80002400000000863fff5f000020056100dc203a100000000000000000000008000000000000000000000,
  0x800000000000000001000410010002b00080002400000000863fff5f000000000000cc200010,
  0x800000000000000001000400000000900080000400000000863fff5f00000001010044201210,
  0x1000010010002900080000400000000863fff5f00000001000044200210,
  0xa0000400000000863fff5f000020052000cc2032100a0000400000000063fdfff000000010000c8203210,
  0x800000000000000000000010000001100000000000000000000000a000000000200000000000,
  0x4000000020000000000000000000000000000000000010000001000,
  0x8000000000000000000000100000010000000010000000000000000000000000000010000000,
  0x1000000000000000000000000000000000000021000000000000000000000000000000000000000000900,
  0x200000000000000000000000000000010000000000080000400000000863fffff0000200520000c201210,
  0xa0000000002000000020000000020000000000000000000000000410018000800,
  0x1000080000000000a0000010016100100039000000003fff7c030000003000000446020000008245a,
  0x60000fc00000000800000000000000000000000000000000000001000000000000000000000000000002,
  0x120000000008020010000000000000000000000000000000000000000,
  0x10016100100039000000000000800000000000000001000410010002200,
  0x10000000018000000000000000000000000000000001000000001100,
  0x3000000000000000000000000000002000080039000000000000000000000000000001001000010002b00,
  0x42000000000000000000000000000002000080018000000000000000000000000000000011000000000000,
  0x2000000000000000000000000000000000000000000000000001000000000000000000000000000000,
  0x8000000000000000000000000000000000000000000400000000000000000000000000000000000000,
  0x80000400000000863fdfff000000014100582032100000100000000000000000000000000000000000000,
  0x100180030000000000000000000000000000000000400018001000,
  0x80000400000000803fdfff000000014100582032100000000000000000000000000000000410018003000,
  0x80000400000000803fcfff000000014100582032100000000000000000600000000000000000000000000,
  0xc00000000000000000000100000000000000000000100000000000000000000000,
  0x1c000000000000000000000000000000000000000030000000000000000000000,
  0x78000000000000000000000000000000000000000028400000000001000040000000,
  0x1000000000000000000000000000000000000000004000000000000000000000,
  0x40000000000000000000000000000000000000000000000000000000000200000000000000000000,
  0xa0000400000000863fdfff00000001000048203210080000000000000803fdfff00000001410058003010,
  0xa0000400000000803fdfff000000010000482032100000000000000000000000000000000000080001000,
  0xa0000000000000803fdfff000000010000480030100a0000400000000803fcfff00000001000048203210,
  0xa0000000000000803fcfff000000010000c80010100a0000400000000803fcfff000000010000c8201210,
  0x80002000000000803fcfff00000001000040001810080002400000000803fcfff00000001000040201a10,
  0x80000400000000803fcfff000000010100402022100a0000400000000803fcfff00000001000048200210,
  0x80000400000000803fcfff000000010000c0200210080000400000000803fcfff00000001400040200210,
  0x80000400000000803fcfff00000001000040200210080000000000000803fcfff000000010000c0000010,
  0x4000000000000020000000000000000000000000000000000000800000000000000000000600000001000,
  0x4000000000000000000000000000000000000000000000000000000010000000000000000000000000000,
  0x400000000000000000000000000000000000000000020000000000000,
  0xfff78000000000000000440000000008044a0000000000000000000000000000000000000000022,
  0x2000000000000000000000000000000100082011000000000000000300000000000000000000000000000,
  0x6000000000000000000000000000000000300000000000000000000000000000010008003000,
  0x100000000000000000000000000000000000000000000000000000000000000400000000000000,
  0x101000000000000000000000000000000000000000010100000000000000000400000000000000,
  0x800000000000000000000000000000000000000000800000000200000000000010004003100,
  0x20000000080000000020000000000001000c2011000000000010080000000000000000000000000000000,
  0x40400200000000800000000000000000000010008201100,
  0x40000000000000000000000000000000000000000000020,
  0x6000000002000000000000000000000000000000000020000000000,
  0x40000000000000000000000000000000000000000000000000000000000000000000000002000000000000,
  0x30000000000000000000000000000000000000000002800000000000000000000000000,
  0x1008000000000000000000000000000000000000000080800000000000,
  0x8020a0000400000000863fffff0000200500004c200210,
  0x100000020000000000fff7ff3087c027008000ce60300024284cca,
  0x2000000000000000000000000000000000880010000200000000000000000000000000000000008003000,
  0x4100100020000000000000000000000000000000060000000000002,
  0x8000000000000000000604100100000020000000000000000000000000000060010000000002,
  0x604000000020020300010000000000000000000000000000008003000,
  0x4100000000000000000000000000000000000000000410018000000,
  0x80000000000002000000000000000000000000000000800000000000,
  0x180000000000000000000000000000000000010000000000000,
  0x4000080000000000000000000000000000000000000000010002000,
  0x100100020000000000000800000000000000000000400000001000,
  0x2000000000000000000000000000000000080020000000000000000000000000000000000400018000000,
  0x100180020000200000000000000000000000000000000088000000,
  0x20000100080000000020000000000001000c2011000000002000000000000000000000000000000000000,
  0x80000000020000000000001000c201100030000000080000000020000000000001000c003000,
  0xfff180000000000000004400000000080448030000000080000000020000000000001000c000000,
  0x100000000000000000000000000000000000000008000000000000000410018003000,
  0x4000100030000800000000000000000000000000000000000000000,
  0x80000000000000000100080020000000000000000008000000000000000010008000000,
  0x100030000000000000000008000000000000000010018000000,
  0x80000000000000004100180000000000000000000008000000000000000410008000000,
  0x200000000000008000000000000000000008003000000000000e000000000000000000000000000000000,
  0x2000000000000080000000000000000000880010000000000000000008000000000000000000000002000,
  0x800000000000000000000000020000000008000000000000000000000001800,
  0x80000000000000000100000020000200000000000008000000000000000000008000000,
  0x80000000000000004000000000000000000000000008000000000000000010000000000,
  0x10000000000000000000000000000000000000000000000008000000000000000000080000000,
  0x20000000000000000000000000000080020000000000fe100000000000000000400000000008044a,
  0x1000000000000000000000000000000000000000000000000fe1000000000000000000000000000080442,
  0x800000000000000000000000000000000000000000040000,
  0x400000000000000000000000000000000000000000000020000000000000000000000000000000000,
  0x8000000000000000000000000000020000000080000000000000000000000000000000000000,
  0xa0004400000000863fffff7fff300520004c2003100a0000400000000863fffff7fff300520004c200310,
  0x3c1000000000000000000000000000000000000fe000000000000000000400000000008044a,
  0x80000000000000000000000000000000000000000002000000000000000000000000000000000000000,
  0x80000400000000063fdc5f000020054100582032000001000000000000000000000000000000000000000,
  0x200000000000000000000000000000000010000000000000000000000000000000000000018002000,
  0xfff780000000000000000000000000080048080000400000000063fdc5f00002005000040200200,
  0x10000000000000000000000000001c0030000000000000000204000,
  0x400000000000000000000000000000000000000000000000008000000000000000,
  0x20000000000000000000000000000000000000000001f100000000000000000000000000000,
  0x80000400000000003fd8ff7fff30054100580033100000000000800000000000000000000410010000000,
  0x80000400000000003fd8ff00002005000040000200000001000000000000000a000000001600010001000,
  0x8000000000000000000014000100000000000000fff780000000000000000000000000000048,
  0x80000400000000003fd8ff00002005410058003200000001000080000000000a000000001400010003000,
  0x1000000000000000a000000001000000001000080000400000000003fd8ff00002005010040002200,
  0x80000400000000003fd8ff00002005000040000210080000400000000003fd8ff00002005400040000200,
  0x300000000000000002000000000000000800000000000000000000010010001000,
  0x80000400000000003fd8ff000020050000c0000200080002400000000003fd8ff00002005000040001200,
  0xa0000400000000003fd8ff000020050000480032000a0000400000000003fd8ff7fff3005000048003310,
  0xa0000400000000003fd8ff000020050000c80012000a0000400000000003fd8ff00002005000048000200,
  0x1c1000000000000000000000000000000000000000000000080000000000000000000000000,
  0x600000000000000000000000000000000000000000000000fc0000000000000000000000000000000000,
  0x3f6800000000000000000000000000800480080000000000000000000000000000000000000000,
  0x1400000000000000000002000000000000000000000000000080000000000010000000,
  0x80000400000000003fd85f000020050000400002000000000021680000000000000000000000000080048,
  0x10000000000001e000000000000000000000000000000000,
  0x10000000000000000000000000000000000000000000800000,
  0x2000000000000000000000000000000000000000000002000000,
  0x8000000000000000000000000000000000000000000400000000,
  0x20000000000000000000000000000000000000000001000000000,
  0x80000000000000000000000000000000000000000004000000000,
  0x200000020200000000fde780000000000000000000000000000000,
  0x200000020210000000000000000000000000000000000000000004]⟩

/-- Where each list of actions begins. -/
def listFirst : Packed := ⟨4131, 13, 27, #[
  0x6403001700b0054028013009004402000f007003401800b005002401000700300140080030010004000000,
  0xd006603201880c005e02e01680b005602a01480a004e0260128090046022010808003e01e00e807003601a,
  0x14c0a4051028013c09c04d026012c094049024011c08c044021810808003f01e80f007603a01c80e006c035,
  0x1c00de06e03681ac0d206803381980ca06403181880c206002f81780ba05c02d81680b205802b81580aa054,
  0x22c114089044021c10c085042020c10408104001fc0fc07d03e01ec0f407903c01dc0ec07503a01cc0e4071,
  0x29c14a0a405182881420a004f827813a09c04d826813209804b825812a0940498248122090047823811a08c,
  0x3741b60d906b83541a60d106783341960c906383141860c105f82f41760b905b82d41660b105782b41560a9,
  0x43021610a084842020e106082840c2020ff07e83ec1f20f707a83cc1e20ef07683ac1d20e7072838c1c20df,
  0x49c24c125092048c244121090047c23c11d08e046c23411908c045c22c11508a044c224111088043c21c10d,
  0x50828214009f84f827a13c09d84e827213809b84d826a13409984c826213009784b825a12c09584a8252128,
  0x5742b815b0ad05642b01570ab05542a81530a905442a014f0a7053429814b0a505242901470a30514288143,
  0x5f42f61790bb85d42e81730b905c42e016f0b705b42d816b0b505a42d01670b305942c61620b085802be15e,
  0x66032e1960ca86503261920c8864031e18e0c6863031618a0c4862030e1860c286103061820c086002fe17e,
  0x6cc3641b10d806bc35c1ad0d606ac3541a90d4069c34c1a50d2068c3441a10d0067c33c19d0ce066c334199,
  0x7443a01cf0e707343981cb0e507243901c70e307143881c30e0870037c1bc0dd86e83721b80db86d836a1b4,
  0x7b03d61ea0f487a03ce1e60f287903c61e20f087803be1de0ee87703b61da0ec87603ae1d60ea87503a61d2,
  0x81c40c205102080c40420110007fc3fc1fd0fe07ec3f41f90fc07dc3ec1f50fa07cc3e41f10f807bc3dc1ed,
  0x88844222010f887843a21c10d886843221810b885842a2141098848422210107883841a20c1058828412208,
  0x8f447823b11d08e447023711b08d446823311908c446022f11708b445822b11508a44502271130894448223,
  0x9604ae25612a89504a6252128894049e24e126893049624a124892048e2461228910486242120890047e23e,
  0x9cc4e427113809bc4dc26d13609ac4d4269134099c4cc265132098c4c4261130097c4bc25d12e096c4b4259,
  0xa3851a28c1458a285122881438a1850a2841418a0850228013f89f84fa27c13d89e84f227813b89d84ea274,
  0xaa45502a71530a945482a31510a8454029f14f0a7453829b14d0a6453029714b0a545282931490a4452028f,
  0xb105862c21608b0057e2be15e8af05762ba15c8ae056e2b615a8ad05662b21588ac055e2ae1568ab05562aa,
  0xb7c5bc2dd16e0b6c5b42d916c0b5c5ac2d516a0b4c5a42d11680b3c59c2cd1660b2c5942c91640b1c58c2c5,
  0xbe85f22f817b8bd85ea2f41798bc85e22f01778bb85da2ec1758ba85d22e81738b985ca2e41718b885c22e0,
  0xc546283131890c4462030f1870c3461830b1850c246103071830c146083031810c046002ff17f0bf45f82fb,
  0xcc065e32e1968cb065632a1948ca064e3261928c906463221908c8063e31e18e8c7063631a18c8c6062e316,
  0xd2c6943491a40d1c68c3451a20d0c6843411a00cfc67c33d19e0cec67433919c0cdc66c33519a0ccc664331,
  0xd986ca3641b18d886c23601af8d786ba35c1ad8d686b23581ab8d586aa3541a98d486a23501a78d3869a34c,
  0xe107023801bf8df86fa37c1bd0de46f03771bb0dd46e83731b90dc46e036f1b70db46d836b1b50da46d0367,
  0xe8474039f1cf0e7473839b1cd0e647303971cb0e547283931c90e4472038f1c70e3471838b1c50e24710387,
  0xef07763ba1dc8ee076e3b61da8ed07663b21d88ec075e3ae1d68eb07563aa1d48ea074e3a61d28e907463a2,
  0xf5c7ac3d51ea0f4c7a43d11e80f3c79c3cd1e60f2c7943c91e40f1c78c3c51e20f0c7843c11e00efc77c3bd,
  0xfc87e23f01f78fb87da3ec1f58fa87d23e81f38f987ca3e41f18f887c23e01ef8f787ba3dc1ed8f687b23d8,
  0x103481840b2051024810407203101480840320110048003ff1ff0ff47f83fb1fd0fe47f03f71fb0fd47e83f3,
  0x10a48504272131094848423211108484041e20e907083641a20c906082e41620a9050826412208904081e40e,
  0x1128892448223911888a444221910888244021f90f887a43c21d90e887243821b90d886643121710b085642a,
  0x119c8cc465232118c8c4461230117c8bc45c22d11648b045722b11548a845322911448a044f227113489844b,
  0x120890248023f91f88fa47c23d91e88f247823b91d88ea47423991c88e247023791b88da46c23591a88d2468,
  0x127493849b24d126493049724b1254928493249124492048f247123491848b24512249104872431214908483,
  0x12e096e4b625a92d09664b225892c095e4ae25692b09564aa25492a094e4a625292909464a2250928093e49e,
  0x134c9a44d1268133c99c4cd266132c9944c9264131c98c4c5262130c9844c126012fc97c4bd25e12ec9744b9,
  0x13b89da4ec27593a89d24e827393989ca4e427193889c24e026f93789ba4dc26d93689b24d826b93589aa4d4,
  0x1424a105072831414a085032811404a004ff27f13f49f84fb27d13e49f04f727b13d49e84f327913c49e04ef,
  0x1490a465222909480a3e51e28e9470a3651a28c9460a2e51628a9450a265122889440a1e50e2869430a1650a,
  0x14fca7c53d29e14eca7453929c14dca6c53529a14cca6453129814bca5c52d29614aca54529294149ca4c525,
  0x1568ab25582ab9558aaa5542a99548aa25502a79538a9a54c2a59528a925482a39518a8a5442a19508a82540,
  0x15d4ae85732b915c4ae056f2b715b4ad856b2b515a4ad05672b31594ac85632b11584ac055f2af1574ab855b,
  0x1640b1e58e2c69630b1658a2c49620b0e5862c29610b065822c09600afe57e2be95f0af657a2bc95e0aee576,
  0x16acb545a92d4169cb4c5a52d2168cb445a12d0167cb3c59d2ce166cb345992cc165cb2c5952ca164cb24591,
  0x171cb8c5c52e2170cb845c12e016fcb7c5bd2de16ecb745b92db96d8b6a5b42d996c8b625b02d796b8b5a5ac,
  0x1798bca5e42f19788bc05de2ee176cbb45d82eb9758baa5d42e99748ba25d02e79738b9a5cc2e59728b925c8,
  0x1834c1860b3051820c0c6053019804c005ff2fe97f0bf65f92fb97d4be85f22f817b4bd85eb2f517a4bd05e7,
  0x18c0c5e62e31698b0c56629314189cc4a623310187cc3c61d30e186cc3461730b1854c266123089840c1e60e,
  0x192cc94649324191cc8c645322190cc8464132018fcc7c63d31e18ecc7463931c18dcc6c63531a18ccc64631,
  0x1998cca6643319988cc266032f9978cba65c32d9968cb265832b9958caa6543299948ca26503279938c9a64c,
  0x1a54d286923481a38d1868a3441a18d0868234019f8cf867a33c19d8ce867233819bccda66b33519a4cd0667,
  0x1ad0d666b23589ac0d5e6ae3569ab0d566aa3549a9cd4c6a53521a88d426a034f9a74d3669a34c9a60d2e696,
  0x1b3cd9c6cd3661b2cd946c93641b1cd8c6c53621b0cd846c13601afcd7c6bd35e1aecd746b935c1adcd6c6b5,
  0x1bb0dd66e83739b98dca6e43719b88dc26e036f9b78dba6dc36d9b68db26d836b9b58daa6d43699b48da26d0,
  0x1c1ce0c7053821c0ce047013801bfcdfc6fd37e1becdf46f937c1bdcdec6f537a1bccde46f13781bbcddc6ed,
  0x1c90e467223909c80e3e71e38e9c70e3671a38c9c60e2e71638a9c50e267123889c40e1e70e3869c2ce14708,
  0x1d04e8073f39f1cf4e7673a39c1cdce6c73539a1ccce647313981cbce5c72d3961cace547293941c9ce4c725,
  0x1d70eb675a3ac9d60eae7563aa9d50ea67523a89d40e9e74e3a69d30e9674a3a49d20e8e7463a29d10e86742,
  0x1de4ef07773ba9dd0ee67723b89dbcedc76d3b61daced47693b41d9cecc7653b21d8cec47613b01d7cebc75d,
  0x1e54f287933c91e44f2078f3c71e34f1878a3c49e20f0e7863c29e10f067823c09e00efe77e3be9df0ef677a,
  0x1eccf647b13d81ebcf5c7ad3d61eacf547a93d41e9cf4c7a53d21e88f4079e3ce9e70f3679a3cc9e60f2e796,
  0x1f40f9e7ce3e69f30f967ca3e49f20f8e7c63e29f10f867c13e01efcf7c7bd3de1eecf747b93dc1edcf6a7b4,
  0x1fc0fde7ee3f61facfd47e93f41f9cfca7e43f19f88fc27e03ef9f78fb87db3ec9f5cfac7d53ea1f4cfa47d1,
  0x203501880b405202501080740320150088034012004ffe7fd3fe1fecff47f93fc1fdcfec7f53fa1fccfe47f1,
  0x20c105e82e41620a9050826412a091046822410a08103e81e40ea07103681a40ca06102e81640aa04901e80e,
  0x213909a84c425a129092848423a11908a844421a10507e83e41ea0ed07483941c20dd06c83541a20cd064831,
  0x21ad0d4869434219d0cc864431a1890c286042fa1790ba85c42da1690b285842b21550a885342921450a084f,
  0x223111688a444a22110e886442a211106882440a2010fe87e43ea1ed0f287743b21d50e4870437a1b90da86c,
  0x22b11568aa454a2a114e8a6452a2911468a2450a28113e89e44ea27113689a44c2259128892448223d11c88d,
  0x232118e8c6462a3111868c2460a30117e8be45ea2f11768ba45ca2e116e8b645aa2cd1648b145822bd15c8ad,
  0x238d1c48e1470237d1bc8dd46e236d1b48d946c235d1ac8d546a234d1a48d1468233d19c8cd466232d1948c9,
  0x23f91fa8fc47da3e91f28f847ba3d91ea8f4479a3c91e28f0477a3b91da8ec475a3a91d28e8473a3991ca8e4,
  0x246d23491948c245d22c91548a244d224911488243d21c90d4852425210907483241520890348124052008ff,
  0x24e927293849ba4d926a93449924c125c92d49624ad254929494249d24c924491a48924292048fa47923a91c,
  0x25652b09574aaa54d2a294f4a7253529894b4a525252909474a325152889434a1250528093f49f24f527893b,
  0x25d52e89734b925c52e096f4b725b52d896b4b525a52d09674b325952c89624b0a5812be95e4aea5712b695a,
  0x264d32298f4c6a63131698a4c4a62130e9864c2a6113069824c0a6012fe97e4bea5f12f697a4bca5e12ee976,
  0x26d93689b24d8a6c135c9ad4d626ad3529a74d2a68d3449a14d0267d33c99d4ce266d3349994cc265d32c995,
  0x27553a89d34e927453a09cf4e727353989ca4e4271d38c9c54e2270d3849c14e026f93789bb4dd26e53709b7,
  0x27d13e69f24f8a7c13de9ee4f6a7b13d69ea4f4a7a13ce9e64f2a7913c49e04ef27713b69da4eca7613ae9d6,
  0x2845420a0f5072835418a0b5052825410a075032815408a0350128053fe9fe4fe27ed3f49f94fc27dd3ec9f5,
  0x28b1456a2a514a8a144ea26512a891446a22510a88143ea1e50ea871436a1a50ca86142ea1650aa851426a12,
  0x292148ea46522a911486a42520a90147ea3d51e28ed474a3951c28dd46ca3551a28cd464a3151828bd45ca2d,
  0x298d4c4a61530297d4bca5d52e296d4b4a5952c295d4aca5552a294d4a4a51528293d49ca4d526292d494a49,
  0x29f94faa7c53da9e94f2a7853ba9d94eaa74539a9c94e2a70537a9b94daa6c535a9a94d2a68533a9994caa64,
  0x2a69532a9854baa5952aa935492a45520a8f5472a35518a8b5452a25510a875432a15508a835412a05500a7f,
  0x2ad5568ab35592ac5560aaf5572ab5558aab5552aa5550aa75532a95548aa35512a85540a9f54f2a75538a9b,
  0x2b4159eace566ab31596aca564ab2158eac6562ab11586ac2560ab0157eabe55eaaf1576aba55caae156eab6,
  0x2bb15d6aea5742b9d5ccae55722b8d5c4ae15702b7d5bcadd56e2b6d5b4ad956c2b5d5acad556a2b4d5a4ad1,
  0x2c1d60cb055822c0d604b015802bfd5fcafd57e2bed5f4af957c2bdd5ecaf557a2bcd5e4af15782bbd5dcaed,
  0x2c89642b2058fac7963ab1c58dac69632b1858bac5962ab14589ac49622b10587ac3961ab0c585ac29612b08,
  0x2cf5678b3b59d2ce5670b3759b2cd5668b335992cc5660b2f5972cb5658b2b5952ca5650b275932c95648b23,
  0x2d616aeb565aaad516a6b525a8ad4169eb4e5a6ad31696b4a5a4ad2168eb465a2ad11686b425a0ad0167eb3e,
  0x2dcd6e4b715b82dbd6dcb6d5b62dad6d4b695b42d9d6ccb655b22d8d6c4b615b02d7d6bcb5d5ae2d6d6b4b59,
  0x2e49722b905c7ae3971ab8c5c5ae29712b885c3ae15708b835c12e05700b7e5beaded6f2b785bbadd96eab74,
  0x2eb9758bab5d52ea5750ba75d32e95748ba35d12e85740b9f5cf2e75738b9b5cd2e65730b975cb2e55728b93,
  0x2f29792bc85e3af1978abc45e1af09782bc05dfaef977abbc5ddaee9772bb85dbaed976abb45d9aec9762baf,
  0x2f957c8be35f12f857c0bdf5ef2f757b8bdb5ed2f657b0bd75eb2f557a8bd35e92f457a0bcf5e72f35798bcb,
  0x30017febfe5feaff17f6bfa5fcafe17eebf65faafd17e6bf25f8afc17debee5f6afb17d6bea5f4afa17cebe6,
  0x306d834c1960c305d82cc1560a304d824c11608303d81cc0d606302d814c09604301d80cc05602300d804c01,
  0x30d986ac34619b0c9862c30617b0b985ac2c615b0a9852c28613b09984ac24611b089842c2060fb07983ac1c,
  0x31458a0c4f6273135898c4b6253125890c476233115888c436213105880c3f61f30f5878c3b61d30e5870c37,
  0x31b18d6c6a634b1a18cec66632b1918c6c62630b1818bec5e62eb1718b6c5a62cb1618aec5662ab1518a6c52,
  0x322190ec86642b211906c82640b2018fec7e63eb1f18f6c7a63c31dd8ecc7563a31cd8e4c7163831bd8dcc6d,
  0x328d944ca1650327d93cc9d64e326d934c9964c325d92cc9564a324d924c91648323d91cc8d646322d914c89,
  0x32fd97acbc65db2e9972cb865bb2d996acb4659b2c9962cb0657b2b995acac655b2a9952ca8653b29994aca4,
  0x33759b8cdb66cb3619accd566a334d9a4cd1668333d99cccd666332d994cc9664331d98ccc5662330d984cc0,
  0x33e59f0cf767b33d59e8cf367933c59e0cef67733b59d8ceb67533a59d0ce7672b3919c6ce2670b3819becde,
  0x3451a26d12688b441a1ed0e686b431a16d0a684b421a0ed06682b411a06d02680b4019fecfe67eb3f19f6cfa,
  0x34bda5cd2d69634ada54d29694349da4cd25692348da44d21690347da3cd1d68e346da34d1968c345da2cd15,
  0x3529a92d486a3b519a8ad446a1b509a82d4069fb4f9a7ad3c69db4e9a72d3869bb4d9a6ad34699b4c9a62d30,
  0x35a1aced666b23589ac2d606afb579abad5c6adb569ab2d586abb559aaad546a9b549aa0d4f6a73535a98d4b,
  0x3619b0ad846c1b609b02d806bfb5f9afad7c6bd35e5af0d776bb35d5ae6d716b835bdadcd6d6b635adad4d69,
  0x3689b42d9f6cf3675b38d9b6cd3665b30d976cb3655b28d936c93645b20d8f6c73635b18d8b6c53625b10d87,
  0x3701b7edbe6deb6f1b76dba6dcb6e1b6edb66dab6d1b66db26d836bdb5cdad6d636a9b50da76d33695b48da3,
  0x377dbbcddd6ee376dbb4dd96ec375dbacdd56ea374dba4dd16e8373db9cdcd6e5b725b8edc56e2370db84dc1,
  0x3801bfedfd6fe37edbf4df96fc37ddbecdf56fa37c9be2df06f737b5bd8deb6f537a5bd0de66f2b78dbc4de0,
  0x3881c3ee1e70e386dc32e1870bb859c2ae147093845c20e0f7073835c18e0b7053825c10e077033811c06e01,
  0x38edc74e3971c38ddc6ce3571a38cdc64e3171838bdc5ce2d71638adc54e29714389dc4ce25712388dc44e21,
  0x3959caae54729b949ca2e50727b939c9ae4c725b929c92e48723b919c8ae44721b909c82e4071fb8f9c7ae3c,
  0x39c5ce0e6f73739b5cd8e6b73539a5cd0e677333995cc8e637313985cc0e5f72f3975cb8e5b72d3965cb0e57,
  0x3a3dd1ce8d7463a2dd14e89743ba19d0ae84741ba09d02e7f73f39f1cf6e7a73cb9e1ceee7673ab9d1ce6e72,
  0x3ab9d58eab7553aa5d4eea6752ba91d46ea2750ba7dd3ce9d74e3a6dd34e9874bba59d2ae94749ba49d22e90,
  0x3b25d90ec77633b15d88ec37613b05d80ebf75f3af5d78ebb75d3ae5d70eb775b3ad5d68eb37593ac5d60eaf,
  0x3b99dcaee4771bb89dc2ee076fbb79dbaedc76dbb69db2ed876bbb59daaed4769bb49da0ecf7673b31d96eca,
  0x3c05e00eff77f3bf5df8efb77d3be5df0ef777b3bd5de8ef37793bc5de0eef7773bb5dd8eeb7753ba5dd0ee7,
  0x3c71e36f1a78cbc61e2ef1678abc51e26f12788bc41e1ef0e786bc31e16f0a784bc21e0ef06782bc11e06f02,
  0x3cdde6cf3579a3ccde64f317983cbde5cf2d7963cade54f297943c9de4cf257923c8de44f217903c7de3cf1d,
  0x3d49ea2f507a7bd39e9af4c7a5bd29e92f487a3bd19e8af447a1bd09e82f4079fbcf9e7af3c79dbce9e72f38,
  0x3db5ed8f6b7b53da5ed0f677b33d95ec8f637b13d85ec0f5f7af3d75eb8f5b7ad3d65eb0f577ab3d55ea8f53,
  0x3e21f0ef867c2be11f06f827c0be01efef7e7bebdf1ef6f7a7bcbde1eeef767babdd1ee6f727b8bdc1edef6e,
  0x3e8df44fa17d03e7df3cf9d7ce3e6df34f997cc3e5df2cf957ca3e4df24f917c83e3df1cf8d7c63e2df14f89,
  0x3ef9f7afbc7ddbee9f72fb87dbbed9f6afb47d9bec9f62fb07d7beb9f5afac7d5bea9f52fa87d3be99f4afa4,
  0x3f65fb0fd77eb3f55fa8fd37e93f45fa0fcf7e73f35f98fcb7e53f25f90fc77e33f15f88fc37e13f05f80fbf,
  0x3fd1fe6ff27f8bfc1fdefee7f6bfb1fd6fea7f4bfa1fcefe67f2bf91fc6fe27f0bf81fbefde7eebf71fb6fda,
  0x403e01d00d806402e015009804401e00d005802400e0050018003ffdffcffd7fe3fedff4ff97fc3fddfecff5,
  0x40aa053028813c09a04b024811c08a04302080fc07a03b01c80dc06a03301880bc05a02b014809c04a023010,
  0x4116089043821410608103f81f40f607903b81d40e607103781b40d606903381940c606102f81740b605902b,
  0x41820bf05e82ec1720b705a82cc1620af05682ac1520a7052828c14209f04e826c13209704a824c12208f046,
  0x41ee0f507983c41de0ed07583a41ce0e507183841be0dd06d83641ae0d5069834419e0cd065832418e0c5061,
  0x425a12b094849c24a123090847c23a11b08c845c22a113088843c21a10b084841c20a10308083fc1fa0fb07c,
  0x42c61610af85742b61590ab85542a61510a785342961490a3851428614109f84f427613909b84d4266131097,
  0x43321970ca864c32218f0c6862c3121870c2860c30217f0be85ec2f21770ba85cc2e216f0b685ac2d21670b2,
  0x439e1cd0e5872438e1c50e1870437e1bd0dd86e436e1b50d986c435e1ad0d586a434e1a50d1868433e19d0cd,
  0x440a20310087fc3fa1fb0fc87dc3ea1f30f887bc3da1eb0f4879c3ca1e30f0877c3ba1db0ec875c3aa1d30e8,
  0x447623911b88d446623111788b4456229113889444622110f887443621910b88544262111078834416209103]⟩

/-- The actions of the lists, with their sort in the last three bits. -/
def listAction : Packed := ⟨4381, 16, 22, #[
  0xf8a3800cb0179806609018a378a3706cd024106e40a3680ca80020240859b8273014d80070000200050003,
  0xae782810405875e80cc06cd8ae700cb803806e4815f866108ba08b9806b805700a500990a39090289020a388,
  0xfc0000a6db8b7c0000a0ed01e901e88020003181068000a000a5aa0ae90ae88ae802418153828187b084060,
  0x107803980b88753815d866d88ea08e9805a810705aa80930233823d88de026781ea0001a0fc8001a00126dd8,
  0xb100e00001a001a000a2a005a50b0001ea8aff8aff0275805e03ae832603b28b86826604590083010680ce0,
  0x251023981590158814c01510150814f07b28250840700cd802b814a806e0239006d82df82388247856781490,
  0x23c023b824f014a0257023b015a815a014c81520151814f8256802c014b023a82e2023a024e814983e903b58,
  0x22002100222409002259b900222731002214d90022259023c815c015b814d0153015281500258802c814b8,
  0x220cb10022179900220661002290190022a3790022a37100226cd10022241100226e410022a36900220ca9,
  0x228b99002206b90022057100220a51002209910022a39100229029002290210022a389002200f90022a381,
  0x224059002275e900220cc100226cd90022ae7100220cb90022038100226e49002215f90022661100228ba1,
  0x32002a0022ae910022ae890022ae8100222419002215390022281900227b09002240610022ae7900222811,
  0x28243827d014e016f852e016e8530052d052c82f20324036a007c807b03640167016680052004a0042003a,
  0x21805680eb80eb009400818235023d026302448155028e828e003b0759816186700ad60a2f0ad582440ad50,
  0x14e822e0bb28bb4828b022d8061845a84ad0b26825d80df806f0b7c00ee022c822c005200ef8045015d03800,
  0x8284b50469846783f383f1038d03eb82eb8245015582928292003d01630ae30a350ae682468ae2824702808,
  0xa363035883f5828d803a00a586e68161066183a302d8024300d808bb028a0005a0100005a0fc0af2038e0,
  0x46406df80ed803a802109078093823484218421038304108268003382da07908000a6db8000a0708000a0668,
  0x32482710036015f02d9823f026d07908b2a807000668441843684358435027980858085000183bd03bc82698,
  0x1628246010802900b8e0018001000cd00e0000620fc82c6804d017602d9026e82bf006f80888088000103ae0,
  0xf082a801f4811f02b1804900c1817081f0026082ad011f0001a0ac00ac0000a0062000a0240290803c80bb8,
  0x2ae0b92029e804600c7816502500139029c8b8a02ab004400be816a825b011302a982a8804280b40169825a0,
  0x3f5025e83f406e1007e00ef02018201004100238032063c80950238063c00da82b2804a00c481718261812b0,
  0x230237823e826a0110814100f981330127011b010480e902a5862a0b4482030b440bac826a82028062038c0,
  0x3a883a8026503a786cf808780dc003901600013002e8091023282420282829a005b04b104eb028c8034815e8,
  0x3f016082370242828482890064043a04e8827684eb86e080ee80468172002280948236026202af0275005b8,
  0x2200580137813700958235825982a7825e0365833b8253833b06dc80ea001b00920233028a80600453827a0,
  0x29883ee06de8105804c002080960234028c0062846284b08b96827b84b306e00138008c00fb0147004201690,
  0x2a9027d805c03f68ba9026c00f0008c81118148003c016200578145814500968245828f82a3806584e583ea0,
  0x12981290097826002ac8291806304948b8b02800146008d011c011e0043016a0059011d811d00970236825a8,
  0x1420144004481648058814381430098824f829c029d806484d58b8f02938146808d8128012a00478170005a0,
  0x4d60b9302940112808e01340136004801710059813581350098026102ad8291006384940ba3027f8138808e8,
  0x4d6829f0045813984fe82aa004180f104970293003b81088283003880ce8382826700350006a0e0829e00650,
  0x8ee08ed86cf091b07bb890a8afe817a803300fd051302b10048811f851382b20049812b850082aa804381138,
  0x16b867206e18257875288b9029b825b815c816b0252015981660251825407b5029501e985ab859985ab08c50,
  0x26380328202063d85eb863d08f908dd08dc86dd08a60b4381860036822d08ff8b7d0b7c8b970258015b075d8,
  0x82007aafb8afb000a000723a2008087428742078b878b0741078a092e09250031044d0070802d036f04078,
  0xea1ad81ad000e200da00d200ca1a1800c200ba00b200aa00a2009a4e684ae838a8358036280092008a16c0,
  0x12a1b800122011a1b700112010a1b40010200fa4e50298003e816408618071808482db0249029781b0000f2,
  0x29686ed00192018a0182017a07e80172016a07c01c100162015a1bf00152014a1bc01bb80142013a1b880132,
  0x1a2019a5b4801a2019a2a300408168825482a2801a2019a49c0297003e0163807106ee824886ee02da82480,
  0x2f842200fa87c0802d86da065584e8060381dc02e08019a0db83748087002e04110663801b201aa01a26490,
  0x2f018b0271827f027e826e025f828f026c83ee8256027e04b1826b025f045b828b886482eb024c83af025d0,
  0x27001f001d801d001c0017001580150014051282b000470172876c8265876c026282af80308436003004228,
  0x51402b3804a8173026402b30004000382a200400168025302a182a1003f8167825282a08003002a002880280,
  0x26d82be052f02b6004b8175026b82b583ef04b2045c02ec03af838382690034015e023e0268849a8295803d8,
  0x53202c2004e8177827002c1853182c1004e0177026f82c0853102c0004d8176826f02bf853082be804c81758,
  0x5a000aaeb0903053382c600500179027282c5853282c3004f0178027082c2853302c5004f8178827202c48,
  0x90a8005a000a0d78000a0670005a000a5680000a76085500a3a8aec0aeb86e58637076000d709040903805c8,
  0x1ba75b055b8541053b853b0764006107ad855a07ad005e80cc8a4086ea0af48af4053a88c0876486e988c00,
  0xb880b2987540b29090a8000a0670000aaa2074585560ae00bb00b7d875307910bb08b9b001da01d201ca01c2,
  0x16f016e075e0b8c8b8c016c8b998b990a4b8917801e2ba50ba48b908b900bab0baa875a86ec0af10af08b888,
  0x3bd8b320022a0222021a0212020a1ac80202619005185ae0b0c8013801fa01f2b428b420009001eab948b940,
  0x2aa02a2029a0292028a0282027a0272026a0262025a0252024a0242023a02326a48b6b82f88b5986410b460,
  0x35a0352034a0342033a0332032a0322031a0312030a030202fa02f202ea02e202da02d202ca02c202ba02b2,
  0x40203fa03f203ea03e203da03d203ca03c203ba03b203aa5b9003a2039a0392038a0382037a0372036a0362,
  0x650864d03e103d80048a0482047a0472046a0462045a0452044a0442043a0432042a0422041a0412040a5bb0,
  0xb2d81fa01f988f60185803583b706dc02a503b6804b204aa04a2049a04925dd85dd059c86b486b0831a83120,
  0x8fa0186803702f306de02a602f285ef062c85ce0b2e81fb8b2e05ee0b9d01fb01fa8387836a83b7889903840,
  0x8f38187003786a086df02a686a00b58020a8b5785ef8bae820a020982e602df02f388a882e38b57020902088,
  0x8fc08f208f186e282a70b6a82110b6a05ed0baf82108210066805fb86a108a9866b0b69820f820f08fb08f40,
  0x3cf804ca04c204ba77d877785b685e0076f85f086e3066082190b9d85f00bb20218821807548671821782170,
  0x2f402e406a1862f83b8038483a686b386af8a048a04062f062e86af05a905a8830a02f002ef864c03db03d00,
  0x2d201560b0c04668466037f8362032585f38afe05e08361807682cc8069037f023f83f60630858002d182e90,
  0x38c863202d2846a846a038f036c835e05ed836c03eb063182d40468846803870368834c85eb036802ea86310,
  0x24004b4846c846c0390036d835e85ee836d063282d58469046703f303f0846b846b0388836b835985ec836b0,
  0x4e484e4043c03b38382061b83b3066782dd004da04d22f0817406ce03a0807f806c08e608e5864002ce038d8,
  0x53a0532052a0b180e10052222909338a7200898051a0512050a050204fa04f204ea04e2666090488f802ed8,
  0x5120cf01e60b030054a0fd86d8022a0a1e0ac8008a0054222900512b0d80512054205120a780d88005a0512,
  0xa7b09055a055a0552055205120bc0109022a00512b47005120092000a2168a74005420e10055205420552,
  0x56a05420512057a057266e8055a0c8013a00bf011400b500f18056a05620b90054205520fd8055292d807f8,
  0x63a056d02dc8a3381f10120005521f080ac80ac80512056a051200620092000a058a05820c5012c00c201200,
  0x1580157815700db078e02cf86a382cf02f682ce83ba82cd81f504a403a5849f842603ad85f18639042580a90,
  0x14180fa01338127811b81050790078f878f06b606b406b0031c0315030a86520650064c83e283db83d080e98,
  0x2d11059205925689059263a105922d10361056905518360049c83a5035f889785dc841282d0835f056881110,
  0x3601059249c905923a51059235f90592897905925dc90592afe10592412905928dd105928dc905920a910592,
  0x5a3588005a7918b9880df0a050a30005f8a2f83a30005a2df8005a56910592551905924a4105923a590592,
  0x6e6040f008103a4067501c582d781c5016d82d6816d04b40005a07f02d5007d838b0005a34282d3833003630,
  0x4578359069e050d050c84a4844e83b6044e0364869c022807468aa300b580890059a5028502049b840f83a48,
  0x6b90510050f84b0046383f0046304af869f850f050e84ac846183ed8461038b869f050e050d84ab845803e98,
  0x4d7849a04d706eb821f8b5a8acf005baace805b2ace005aa05a2005a0de8511851104b2846583f2846504e78,
  0x60a060a01ba00820602230820b820b005fa05f205ea05e2220005da05d2acc805ca05c235b0534853405018,
  0x1e080672acd0066a0662065ab69000c0b6880652064a0642b56000b0b558063a0632062a06220612061a0612,
  0x712070a070206fa06f206ea06e206da06d206ca06c220c806ba06b206aa06a2069a0692068a0682acf8067a,
  0x7a2079a0792078a0782077a0772076a0762075a0752074a0742073a0732072a0722071a00d2071a071a00ca,
  0xa4180a80086835c80832082a0822081a0812080a080207fa07f207ea07e207da07d207ca07c207ba07b207aa,
  0x84a0e2021600528084224982158084232b00528083a90c8083a4b6843c85f5848080f900dc8580822086eb0,
  0x882087a0872086a052808620862085a08520f280e780e7005280e680e600e580e500e480e400e380e300e18,
  0x90208fa05da051206620512052808ea08f208ea08e208da08d208ca08c208ba08b208aa08a2089a0892088a,
  0x9a2099a0992098a0982069a086a097a0972096a0962095a0952094a0942093a0932092a0922091a0912090a,
  0x57084df84df0683056a856b04da84da067f04a5842485de8424000d056a0a5e0005a09ca09c209ba09b209aa,
  0x40a80510083a2048b3303638ab90ab88ab8009d2008a0082366009ca09c2061a060a0ad054b079400d785710,
  0x8620d000d600d5805100d500d480d400d380d300d280d200d180cf80d081e700510084228401e680e282850,
  0x61a060a01ba008a00822050349009daab00579857904e304e28689856f056e84de84de06828051008ea0510,
  0x540083a054008ea148810f810f0054010e810e010d810d010c810c010b810b0109810a8184825501d200612,
  0x9ea198809ea088209ea22f01fc81fc0568009e219481940afc86ec840e07b980d1018c80540086205400842,
  0x9fa4a7843985f404390573057005e304a3843805e2844d858384a6843785e18437056e009f208da09f208da,
  0x4b7044585f88481858100a020a0205da4a9044505f70444857a857885e684a5044385e6044f8584005da09fa,
  0x861089884e704af038b00612061a01ba008a10980a0a0a0a1fe805da09fa051209fa0512ab981dd8ab088688,
  0x5580862055808420558083a055808ea1448140013f8055813f013e813e013d813d013c813c013b813a813b0,
  0x6f284db8a6b049b06f787cf8288837e88cd042a00a22542076d80a1a09b88c8004da41e841200a120a120512,
  0x1481cc81cc0006028985450775854d87a78543877380a3a0a3209f80a2a0a2a08a25370536850404dc04a08,
  0x4a985e8044a0548077f857b80a4a016801601cd0547077c05e785e504a885e4844205460779857400a420a08,
  0x1781d181d081cf81ce81cd84b785f98483058184aa05f9044b05488781857e05ea05e904a605e8845285848,
  0x54e07a8854a0787857f84b805fa8484058204aa85fa044c85498785057f04a805ea8456058505490783857e8,
  0xf580f500f480f400f380f200f3032f8883087e887e0877854f87ac05858056a0662051254f07ab854e87ab0,
  0x53008420530083a6da865704e9060401dc824e0871024c0053008ea2e1014780f800f7805300f700f680f60,
  0x117811701168116011581148115054d079b0582801f854c879a801e801e054c0798801c854b8795005300862,
  0xa3802a80298029002780a280a1805480862054808420548083a054808ea11e811a011980548119011881180,
  0x56c0360849f03ad03ac85df84250583053e053d8515050384d90503076a804d205aa05a2198009e009d00a48,
  0x550125012481240123812301228122012181208121087b087a8868077b06850a7b81b381b3077480a5256c8,
  0x56013101308130012f812f012e812e012d812c812d005500862055008420550083a055008ea12a812601258,
  0x92a08aa00fa00ba0a5a4a2008aa085205a26f800dd805600862056008420560083a056008ea136813201318,
  0x12c80a0a015a010a57d8691850a0691057c868e0508868d809ba092a013a00da576868685058686057505050,
  0x53808420538083a053808ea10a01038103005381028102010181010100810000ff80ff00fe00fe863b00ea8,
  0x69906978697069686950694869406938690068d068b868b06890112014280fb81348128811c8106005380862,
  0xab20aaab30008a80aa20a9a0a920a8a0a820a7a0a720a6a538053890592536053610a620a6269a869a06998,
  0x56d8552837b83ac03ab80a980aea0ae20ada541853d076a053c8569852e852d8539053980ad20aca0ac20aba,
  0x7810577857704e204e186880547877e057b054005458778057385728572038083b183b105e3853f054307720,
  0x8d781b983b403b204a705e2056f87cd81a5049e849e05df056b805d053507ac879b88979055a789078687820,
  0x5e7044305e5854685758442843885e40544053f8060805f088488840880887f889d0870805d81c081c001ba8,
  0x68e868c8508068c0507868a8507068a050686888687850606870685868405048683844c044b844a85e984440,
  0x9348a7309340a728a808b180698850c06980696050b8695850b06930692850a869206908509868f868f05090,
  0x9350a7381ef09050617061685dc0aec8aed00afa3328b0d81eb84160b2c06f081da009281eb07bd80af20af2,
  0xa298ad30a290ad2822b8a288ad2008b021e8b470b250b238b220b2181da80d68a610a608a1f0ac90a1e8ac88,
  0xf881328b788b770b758b7501268b668b650b638b63011a8b530b518b500b4f81040b3f8b3e0b3c8b3c00e80,
  0xb1a054261a806706fa061a061986f980b121ef85e1061881e8006886f480d980b0a910090f80b0211001408,
  0x622070b86218703062107028620870200b2a61f0700861e8700061e06fc861d86fc061d061c86fb80b220b1a,
  0x6698ac58628872b00b3a62707240626871c8626071c062587118625071100b3262387100623070f8622870c0,
  0x624862400b52620061f80b4a61c004b01f201ee81ee01ed861b00b4288687bd8a4f06e2074a82e7062e03898,
  0xb724168b2c87be891086ce8afa0af986380afa888e8a1f8ac980b6a1fd0b7b0629862900b62628062780b5a,
  0x90f076207b4808f8637808b888f088703330ad0821f0ac600bc20bba0bb20baa0ba20b9a0b920b8a0b820b7a,
  0x66008a5865f0898065e0a2a0ad3820602300204020381df00bcab150b10892089200b080664090e0af707638,
  0xa4980ec00bda92a876210bd20bd266410bd208f90bd267e02d3067c867a867581e580a6867302d0022308a80,
  0x7c980c020bfa2d602d486c686c2821a86bf86ba06c086bb8ad100bf21d880bea1fd80be29378a6f80bda0ae0,
  0xc220c2209290c2279288d288d200c1a0c120c0a2d7042d07cc842c87cc042c07cb842b87cb042b07ca842a8,
  0x708870807078707070687060705870507048704070386ff86ff06fe86fe06fd86fd043b87db843b07db06f09,
  0x7170716871607158715071487140713871307128712070f070e870e070d870d070c870b070a870a070987090,
  0x723072287220721872107208720071f871f071e871e071d871d071b871b071a871a071987190718871807178,
  0x72f072e872e072d872d072c872c072b872a872a0729872907288728072787270726872607258725072487238,
  0x88883530352834c034b834b034a834a0349821301e202310212021181d7073207318731073080c2a730072f8,
  0x58685990409066207b40af38aee88950894889308928892089188910890888d088c888b088a888a088988890,
  0x5a3834d079203bb0366859b0329066e0b7a8b7a000e00c420c3a0c321f401f381f3005083b0076188ce059d0,
  0xe880c4a7b9076507b8809007b38761022386350b7e03f484ec04b38464865605ce83ef82f702dd845c85fd0,
  0xc820c7a0c7222b0b6c88d300c6a0de0a65067f80c620c5a66587c4076b00c528c68a308b0387bc076707660,
  0xd220d1a0d120d0a0d020cfa0cf20cea0ce20cda0cd20cca0cc20cba0cb20caa0ca20c9a0e2909d20c920c8a,
  0x8b307af822488ac87ae88aa87ae0acd823202228222021b08ae87a908ac07a80ad48ad40ad18ac70ab28bb30,
  0xd2a0ab819f8b0a07c487c3891e8b0605f10885866f0417876807bc8af58662855101ca80a7040988b407b00,
  0xe87d5892e88ce808201ac07d207d18a67077101db028800a710d420d4276810d4268000d3a7c881ed00d32,
  0x2b507ed87eb87eb00d6a2b487e587e087df00ab90d620d62b0a10d627dd0a7900d5a0d52a7500d4a15682b40,
  0x88d866f8333832a00d920d8a0d8285b88570849084488268826082288060804880280d7a0d722cd10d727fe0,
  0x2b8864682b802ef01df88a508a488a402b788a38231821a021982b708a203c482b688a003c401de056686160,
  0x55686a901e482bd82bd078e82bc8a0381e382bc02bb86a982bb062d81e282ba82ba02ff02b985a801e102b90,
  0xd9a18f0a46818e8af8025c890c08b508b4855a88af88ad08b288b208b188b1021c08b088b008af08ae06708,
  0x1cb00bea0dc20dba0db20daa1a301a281a201ec85af87c800da26f3819c819c019b819b0af6091e0a51841b8,
  0x1b500dfa1cb80bf21f180bea1b2055400df20dea0de20dda1af81af01ae85b507d980dd21a881a801a780dca,
  0x1f700e4a1f580bf20e420e3a0e320e2a0e227d990e1a1ec90e1a0e1a94300e120e0a0b000af80af00ae80e02,
  0xef20eea0ee20eda0ed20eca0ec20eba0eb20eaa0ea20e9a0e920e8a0e820e7a0e721bf80e6a0e620e5a0e52,
  0x20580bea879855783c90875086e886e086d81d400bea3bf889c086b8a110aaa033d85250a3100f0a0f020efa,
  0x8aa030382fa88a90a220acb088f8649864308a70a1b8ac388878883820680bf287d88770876887601d480bf2,
  0x6ed81900663090d818d88be08bd82db8b9c022580bf21d980bf222400bea1d900beab7f8b9b867286ac86a68,
  0x7cd00f320ad80f2a8c390f220f228c310f1a0f1a08710a1a0f1219e019d80aa08c388c302dc067600da01908,
  0xf7a0f7a0ec80f720f6a0f6a0f627dc00f5a5b4055980f520f4a0f426ed90f4205aa0f3a0d1109d26f586ef0,
  0x6d506d480f9a0f928d310e728da880208da06d206d180f8a0f8277d08d687e988d605ba01ed10d6a1f680ad9,
  0xa01886c886c059a8733886288620b28086088e088e0059a06d606d580fb20faa8da90faa0fa28da10fa21f90,
  0x15488ef08ee8154020e8313830282e308eb08ea82e28208064e8648807d08e708e6807b820083d98a0203c80,
  0xa3d0080022f822e822a8229822882278226821e066e86b988f508f486b886d988f308f286d9021506b206ab8,
  0x91f066500fca287028680ab076887bf08c600fc29168067840e8674891180fba1e787630a3e018a0a3d81898,
  0x42300ff276d006800fea40e10fea0fe249b10fe241f067c067b841e0b0909220b08863880fdab07876980fd2,
  0x102a102206e91022101a1012100a1aa06398a6a0a69892b86668100277180ffa42e88cc8a60008490ff267e8,
  0x105aa800a6f8105266711052a7b0a7a8104a6849104a10421db838101b285548103a9361103a10325b481ae0,
  0x1082107a1bb055581ba055501b7858e858e05b8858c858c05b8058a858a05b78588858805b701072106a1062,
  0x1112110a110210fa10f210ea10e210da10d210ca10c210ba564910ba10b210aa1ca110aa10a2109a1092108a,
  0x341073507348340824b824b00b80a0108e2878a8069832e87330115a1152114a1142113a1132112a1122111a,
  0xa9f8741806a8a9f088105590880055881c681de82e1887a055803c881c60875834e08e40aaf87358342006a0,
  0xacc01c785c385c305d485c185c105d405bf85bf05d385bd85bd05d301e001dd064901c7088b8ac5006b0aa00,
  0x60b05d98609860905d90607860705d88605860505d801e304ea06ac01c90ad001c881e18604830301c808938,
  0x9e876588bf811627b60af7818a80a600268ae380840221001b87930ad7008381e506db01e4065c01c9860b8,
  0x1a681a6042f0117a0b48117219d041d8116a19a819a0199819907c10b0681978197028602858552019381930,
  0x1b601b5811b22778277011aa11a25a305a285a205a185a085a00119a1192118a1ab01aa811821a981a901a70,
  0x24a055701212120a1f80120211fa11f211ea11e211da11d258d858d058b858b05898589011ca0b0811c211ba,
  0x3d203d183d1024d824d03ce03cd83cd03cc83ca83ca087308728872034e886b086a886a086988678867024a8,
  0x304889405c285c205c085c005be85be027b027a860306028602060186008600088c03d683d603d483d403d28,
  0x299065b865b065a865a0659865903108310030e830e030c830c030b830b029b029a830883080307830703050,
  0xa880004a4106ea8af50af308ad8bb388ab8bb10a11827c827c02a482a4060a860a060886080606860602998,
  0x7409210121ab0701ec067b07c18a558a550b05867986f0041580aa8a4b0a4a00d9040d0af90a4406740af68,
  0x124292d0123a92c012327d00122a6820b0f0266812221cb0b0e05a685f308cb85af0b0b8287809180dd00748,
  0x5908590058f858f06d401f78a8788d8012521f601f586d10124a1f281cb85a1059f81f188cf858606d000050,
  0xb2059885980597859705968596059585950594859401d101d001cf01ce01f88593859305928592059185910,
  0x3dd03dc83dc01ff81ff01d383cb03c981fe054081d3038683c183bf01d286d706d6838600b380b300b2832e0,
  0x2558184018384ac03e783e703e683e603e583e503e483e403e383e3020003e083e003df83df03de83de03dd8,
  0x5c9020785c885c805c785c705c685c605c585c505c485c40207020681d4860105ff820581d4062b064506428,
  0x20d01d583058304020c01d502e582fc82fa0185035c035b846205cd85cd05cc85cc05cb85cb05ca85ca05c98,
  0x32103208320031f831f031e831e031d831d031c820e031a031983190318831803178317031683160315820d8,
  0x610060f860f060e860e060d860d060c860c0214021381d688970896821281d6066c06a806a6035d835d05108,
  0x6bf0aa686bb0aa287460b2b865d065c874407438615861506148614061386130612861206118611021486108,
  0xb5b0b5500c100c080c000bf8b478b4180bb00ba80ba00b9821d821d021c81d8021b86c201d78b3386c00aac0,
  0x7aa88f702218ad88b8100b780b700b68b7f00b60b7e8b7b80c700c680c600c58b6d0b6800c400c380c300c28,
  0x75d08fc88b68ae088fb88fa88f980be00bd80bd00bc80ca00c980c900c8822702260225822501d9822401d90,
  0x90008b80ba00]⟩

/-- The symbol that each reduction gives. -/
def reductionSymbol : Packed := ⟨587, 9, 39, #[
  0x3c1deee76badd4eb753b9daeb75391c8eb754aa52d859571b8db604a9b5128b2b158d369b51a96d88bedb2ac,
  0x4a24cce66b3196ad5db5daed56ab5590c268325935eaf57abd5e9a4ceed75873021d0560415d6ea783bdd6ea,
  0x321a4c195ad264ad984b64f1d64b598ad2614bd7cbd5a2b55b2f96c999ece6632d8ec561af97aca5a3455abc,
  0x5d2e70a854298cc6633198cc46249dd73098499e0c493cc261309849de0ee75b11693293ab6613096c9ddd1d,
  0x5a1bf208fbda433ea3d728147a9d4ee9737b5fa3d6e86c36250cb744617477ccf278fba9b65f2f87c3e1f11a,
  0x5ae793c9e4f2d92ca4da2b752a8d4aa3529ed32a94aad5a69949b55aea753a0502af59aed76bb519ebd6b0e0,
  0x3e9e2e18340dceea6d3de054da6d2e8d50a8542a146b4542a150a85b2ab4aa35a29f4fa7d3e9f4fa7d3ecf6a,
  0x3aa00e773bbdcce67ab9dcf087d3e9ecef78bb5e2ea6fb6db6fc70b99eb0178bea0ce773bd9daea6fb69b709,
  0x58afd108844e271389c4e271389c4e271389c4e277e924526f376ecde2f24bac59fb379bb79bcff845e9b8db,
  0x46300e06e371c0dc793ca76bfbbceec118b0462c118b0462c1188c4eec160b0582c1188c46230e58c46232b3,
  0x5ca5d64a2df5d1259b43e1f0f87c6e371b8dc6e371b8dc6e371b8dc6e37048c596cb65973a2c4f49acea7338,
  0x599d360b346306e9b0462cd56b0b8dc6e87461689185fb8ac2e3b1b8ebee2b0b8f00e35fb8de54e9fe0f0d82,
  0x2c15eec8cd5af378916125d2ec0e16fb07b148e6d715b58a477cbdcd631608c59acd608c59acd65b0462cd66,
  0x47239188c462391c8c4623184a4622311c8e46230afc0c623918b85bd5f8792c62febf5fc555eb0bb5d2e6b1,
  0x2d570b7573b17184a12e572b098d8a87419b2e572b0b158a6b365d2e6c5355cad631188c46231188e4623118,
  0x170b8]⟩

/-- The number of parts that each reduction takes. -/
def reductionCount : Packed := ⟨587, 4, 88, #[
  0x3333333332222222214365243132654321111342332666655555555444444333322111222112121433221110,
  0x3223212153312143333211432776559877557776444466666665533555553255552444424244444443333333,
  0x2337655555544444444433333333333333333333222222222222222221111543222222233322121122222231,
  0x11332a9984387766554123543331212213323233555553344444444444444433233333333333333332222222,
  0x3132232222222212122543298877665544332284322121122272444332121226756453423225432165433211,
  0x5233322423223333222211211522623321133332222222978886777556666345522344355533223234424123,
  0x5433332223444242243333333222211a998887777666665555523244444]⟩

/-- The precedence of each reduction, plus one. -/
def reductionPrecedence : Packed := ⟨587, 1, 352, #[
  0xffffffffffcf3ffffcfff7fffffffffffffffffffffffbfffffffffffffffffffffefffffffffffffffffff7,
  0x7ffffffffffffffffffffffffffffffff3fd757ffffffffffffffffffff]⟩

/-- The production of each reduction. -/
def reductionProduction : Packed := ⟨587, 7, 50, #[
  0x31632a53162993264c40831625cb90208cd9020081800000000000800a080000d1a000000204080,
  0x8801734000001e3c00e1a0000b001c0000600000000000000000000000000000000000000000000000,
  0x1b8000280008ac684eb128045a002717629931000023458800bc2625d30000000006a00032625c0004e00026,
  0x3060c00000000000000009ac28014a012200000000f86006c000004a19c36000006678e9c36000000000000,
  0x198000ac00083026cc7ef8e1b000004180fdf0062000007af1dad74b41005600005000002a4200a800000000,
  0x52e000000a0000008000001f0000000325cb0000000000004080000000000000360400057ad55980015eb55,
  0x1870dcb808154a92a5262e98b80228800000000110000680000120000004880000c970064bb4325c000,
  0x56108000000000c200000120000000001004352e4aa89a5174c08b8241525262e0ae5494980170404005,
  0x10c0000c802e000003200b8200000005600000000000000000000000061c372e54a92a5264c5c1170403080,
  0x1700adc80000082800000051c00000c352e4ac52aa26bc0134a005e3802e013000008b800a00c970010000,
  0x2a60bf76a4ab76acca4d4e9519e0004b2e9a4c80039297700000000006004a091002e0000000080000014000,
  0x45e39718d40026e09b0260bd3a7005cc0e0403467cd97263]⟩

/-- What the parser does in each state. -/
def table : Table where
  actionRow := actionRow
  gotoRow := gotoRow
  lexMode := lexMode
  contextMode := contextMode
  actionBase := actionBase
  actionFirst := actionFirst
  actionColumns := actionColumns
  actionValue := actionValue
  gotoBase := gotoBase
  gotoFirst := gotoFirst
  gotoColumns := gotoColumns
  gotoValue := gotoValue
  tokenSet := tokenSet
  listFirst := listFirst
  listAction := listAction
  reductionSymbol := reductionSymbol
  reductionCount := reductionCount
  reductionPrecedence := reductionPrecedence
  reductionProduction := reductionProduction

end Tsx

end CodeAtlas
