import CodeAtlas.Parsing.Table

/-!
# The table for scripts with types

- `TypeScript.table`: what the parser does in each state.
-/

namespace CodeAtlas

namespace TypeScript

/-- The row of actions of each state. -/
def actionRow : Packed := ⟨5878, 12, 29, #[
  0xfcbfcafc9fc8fc7fc6fc5fc4fc3fc2fc1fc0fbffbefbefbdfbcfbbfbafd4fd3fd2fd1fd0fcffb3fb2fce001,
  0xfb8fb8fb8fa2fb8fb8fb8fb8fb8fb8fb9fb9fb9fb9fb9fb9fb9fb9fb9fa1fb9fb9fb9fb9fb9fb9fb8fcdfcc,
  0xfb1f9cf9cf6ff6ef6df6cf6bf9cf6af69f70f83f82f81faafa9fa8fa7fa6fa5fa4fa3fb8fb8fb8fb8fb8fb8,
  0xf0af02ee7f01f06f06f09f05f00ef3f85f85f80f07ef1f7eed2f07f7ef7fee6effefffb1fb1fb1fb1ed9ed1,
  0xee1ee0edfedbedeeddfb7edceecefeeebeeaf0cf0defef0cf0dee9edaee8f24f24f04ef2f84f84f03f08f0b,
  0xe9eeedf63f5ef7cf75f91f50f9af8bf3afb0fabfb5faffaefadf9efb6f9dfa0facfb4f9fee5ee4ee3ee2edb,
  0xf1cf1bf1a96108f091090f7df7dea1eaaea9ea8ea0ea7ea6f95f95f93ec9f93ebef94f94e9fea2ea5ea4ea3,
  0x700646e07a47f06a06947d47b05ff1947947705004f005004474003f2b002027f2bf22f21f20f1ff1ef1d,
  0xf23f44c57c56f10c6dc6cf40f2af12f29ed4f68f28f40f11f32f31f67f30f2ff2ef2df2c00c00b00a009008,
  0xf42f51f3eef0f3deeff3cf41f8cf0feeef3bf15f27f14f79f5ff5bf71f96f8df58f57f56f55f54f53f87f52,
  0xf72f43f89f86f4cf4bf4af49f48f47f46f45f25f34f34f18f34f17f16f34f13f88f77f76f64f9bf3ff59f92,
  0xf8ff43f8ff4df4df4df4df4df4df43f43f43f43f43f43f72f66f43f43f33f33f89f89f89f65f89f33f89f33,
  0xf73f73f73f73f73ed5ed5ed5ed5ed5ed5f98f98f98f98f98f98f35f35f35f35f35f35f33f8ff8ff8ff8ff33,
  0xf0ef26e7af86f86f86f86ef4f86f86f7af7af7af7af7af7af61f61f61f61f61f61f5cf5cf5cf5cf5cf5cf73,
  0xf33f43ed6f86f86f33f86f86f86f86f60f86f86f86f86f86f86f86f86f86f86f86f86f86f86f5af86f86f86,
  0xf43f8af43f43f43f43f43f43f43f43f43f43f43f43f43f43f43f43f43f43f43f43f43f43f86f33f86f8ef33,
  0xf8ef8ef8ef8ef8ef8ef8ef8ef8ef8ef5af8ef8ef8ef8ef8ef97ef5f37ed8f36ed7e7cf78f4ef97e7bf43f43,
  0xf33f33f33f33f33f33f33f33f33f33f33f33f33f33f33f33f33f33f33f33ed3f8ef33f4ff8ef8ef60f8ef8e,
  0xf97f39f97f97f97f97f97f97f97f97f97f97f97f97f97f97f5af97f97f97f97f97ef6f38f33f33f33f90f33,
  0xf72f72f5aef7f74ed3ed3ed3f99ed3ed3ed3ed3ed3ed3ed3ed3ed3ed3ed3ed3ed3ed3ed3ed3ed3ed3ed3f78,
  0xf5af5af5af5af5af5af5aef8f5df72f72f72f72f72f72f72f72f72f72f72f72f72f72f72f72f72f72f72f72,
  0xf60f60f60f60f60f60f60f60f60f60f5aef9f62f5af5af5af5af5af5af5af5af5af5af5af5af5af5af5af5a,
  0xf78f78f78f78f78f78f78f78f78f78f78f78f78f78f78f5aefaf60f60f60f60f60f60f60f60f60f60f60f60,
  0xe79e78e77d60d5fd5ef5aefdf5aefcf60f5af72f97f97f7bf33f8ef8ef8ef5aefbf78f78f78f78f78f78f78,
  0xcd4d08d07e7fd06d05e74d04d03016015014013012e76011010e75d19d1cd18d1bd17d1ad1fd1ed1de7ee7d,
  0xcffcfecfbcfccf4cf2cf1470018cfd46fce7cebcecce8ce9cf3ce6d00d01cf8cface5ceacf9cf7ce3ce4cd5,
  0xce0cdfcdecd7cddcdccdbcdacd924624503acd8ce2cd6cf5cf6cefcedcf0cee01e01d47101c01b01a019017,
  0xebcebbebaeb902402300e00d24402202107947e06b06847c47a05e47847605104e020475473472eb801fce1,
  0x4003f03e03d03c03b03903803703603503403303203203103003002f02e02d02c02b02a029026028026025,
  0x53eae05205205204d04c04b04a049048047046045044044044044044042042042042042043042042030041,
  0x64063062062eaf06106006006005d05d05c05b05a058058059058058058058057056056056042055054054,
  0x8108007f07e07d07c07c07c07b07b07807807707607507407307207107006f06e06e06d06c067066066065,
  0x8c08c08c08c08c08b08a089e9de9de9deadeb7eb6eb5eb4eb3eb2eb1eb008708608500f084083083083082,
  0xe90e8f095094093e8ee8de8ce8aebdebdec8ec1ec1ed0ed0ecdecdec8ec8ec508eec5088ed008d08c08c08c,
  0xeace8be8be8be8be8bec7ec7ec3ec4e8be8be8be8be8be8be8be9ce9be9ae99e98e97e96e95e94e93e92e91,
  0xe8bec2ec2ec3ec3ec3e8be8be8be8be8be8be8bec7ec7ec7ec7e8be8be8be8bec0e8be8be8be8be8be8bec7,
  0xecaecbecbecbec7ec7ec7ec7ec3ec3ec7ec7ec7ec7ec6ec6ec7ec7ec7ec3ec3ec3ec3ecfecfec3ec3ec3ec3,
  0xecce8bebfebfec0ec0ec0ecfecfecfecfecfecfecfecfeceeceecfecfecfecbecbecbecbecbecbecbecbeca,
  0xeaceaceaceaceaceacec7eaceacec7e8be8be8becbecbe8bec7ec7ec0ec0ec0ec0ec0ec0ec0ec0ec0ec0ecb,
  0xe68e66e6ee6de6ce69e67e6fe65eaceaceaceaceace8beace8beabeabeaceaceace8be8be8beaceacec7e8b,
  0xc96c80c98c97c95c93c91c90c7ec7fe64e64c71c70d16d13d0ad15d12d09098097096d14d11d02e6be6ae70,
  0xc8bca4c35d0bd20ca2c84c85c82d0ed0dc8309f09e09d09c09b09a099481480c9ec9dc9bd0cc81c9ac94c92,
  0xc72c8dc8ec89c87c8ac88d2ecaed33d2dcb74f00fcd24c86ca7d10d22ca6c35d0fd21d230a10a0c9fca5c8c,
  0xd28c7cc7bc7ac73c79c78d30c77c76d2fc5acbbc75d25ca9d27cba3aac492e9c550a2ca8cb9cb8482c74c8f,
  0x451d32d2ad31d29d26c58c59cbdc44c3f485484cb3329327cb0cbcc6f3a92e80a4cb1c3c0a3cab483c3ec7d,
  0xc41489488caacacc5ec3a32e32d0a7c5bd2b32c32b32a328326325c993240a6711c6e428c3b0a5c3d486452,
  0x48e48dcb2c5d43b8d9ca049cc9c48c48ac37710427cb6cb5457cb4450458d2cc61c42c43c40487429330caf,
  0xe5f497496c628d8ca143a495c69494c6849be5e45e45dc47c6a456c6543cc38491ca3c5fc60c5c49048fcad,
  0x3adc4b46d46c468463467462498c6bc4a445c45c46c66c63c67c648d745c492446447c39c36e63e62e61e60,
  0xc483b2c503b1c4f3b0c4e3afc4de5de5ce5be5ae59e58e57e56e55e54e53e52e51e50e4f3aec4ce4ee4de4c,
  0xe4be4be4be4be4b3c03bf3be3bd3bc3bb3ba3b93b83b746b3ac4664613b6c544993ab3b5c533b4c523b3c51,
  0xe830a9e820a8e3de3ce3be3ae39964e38e46e4ae88e45e49e87e44e48e86e43e47e85e84e89e42e41e4be4b,
  0x2d09669650be4a54a40fe4a34a20b80bd0b70b00af4a00ae4f50bc0ad49e0ac0ab0aa963e374a14f44f34f1,
  0xc34f80c20c10c04f74f20bf49f0b50bb0ba0b94f60b60b50b43173193180b30b20c44fe96f5010b12cf2d1,
  0xdc0db0da0d99680d84fc0d70d64fb0d50d40d30d20d10d00cf0ce0cd0cc0cb0ca0c90c84fa0c79670c60c5,
  0xee0ee0ee0ed0ec96a0eb0ea9690e90e80e70e60e70e60e50e40e50e40e30e20e30e20e10e00df0de4f90dd,
  0xd519750fb12b96d96c0f996b0f80f70f70f70f60f60f60f50f50f50f40f30f20f20f10f00f00f00ef0ef0ef,
  0x11311211111010f10e10810c10d51810d10c10b10a1091081081071061051041031011021011000ff0fd0fa,
  0x1265175004ff4fd12512412312312212112011f11e11d11c11b11b11311311ad52119118117116116115114,
  0xd57b8e25a505504502514259258512510d56b8d257d62d61d4c256d55d54d5312e12d12c12a129128526127,
  0xd6ad6ad69d68d67a42a3ca43a39a3fa3ea3da3aa41a40a38a3bd67d66d65d64d63507d58b8f50b50625c25b,
  0xa53a5aa59a5125da54d8bd8ad89d88d87508a4bd86a5ddd1a4e974a2ad6ea44a31d5ab91d59b90d6dd6cd6b,
  0x33350c50a3a850933c3322e7d9125fd50d3625eb88d90d8fd8ed8ed8dd34d8cd8ba5ba55a5ca52a58a57a56,
  0xa69a68a60a63da1da0d9fd9ed9d515b8cdd4b8bdd3d6fb8add297797633833d33752e51351150f50eb8950d,
  0x51a4e0519d97d96de3380d95a4dda8a5fa50516da7da6da5da4da4da3da2da1a6aa64a6ba61a67a66a65a62,
  0xd5bb92cc6cc7979989985d3bd38d37cbfcc0d9bd9ad99d9897c51d51c97b33e713978d464e1261d4db6951b,
  0x34234171297a52134052050333fdadb6adacdab51fa2c33533b33a33951e336335334daaa46a33962d9cd40,
  0xdb1db0dafa76a70a77a6da73a72a71a6ea75a74a6ca6fdafdae34b34a34934834752434697d345344343522,
  0x35f35e35d35c35b97e35a52835935852735735635535452535397035235135034f34e34d34cdb4db3db2db2,
  0x372371db598037036f36e97f36d36c36b36a36936a369368367368367366365366365364363362361523360,
  0xb6cda9b6b52998137d37c37c37c37b37b37b37a37a37a379378377377376375375375374374374373373373,
  0xa78a7bdd9dd8dd7dd6dd5531530de432f52f99052d98c988b6e52c52b98a986b6d98398237e52a55298d550,
  0x70f2ec70d37f42633144fa2fde0a49a36ddfddedddddcddcddbddadd9a82a7ca83a79a7fa7ea7da7aa81a80,
  0x544d47b4153238b38a389389de1b403882ed2edd7ab5cb5b387de2d70d74386385d92383384383382381d73,
  0x395394393b43cbeb42d713922ee2ee2ee2eed7bd9439139099338fe3f38938d38ed76d9338edba38d38cd80,
  0xb452ef2ef2ef2efd7cdc3dc2dc1d8539d39c39b39b39339339ad77545992533972d3ab44399398397396396,
  0xdc73a53a4d43d42b48ccdcccccbccab472f0dc6dc5dc43a33a33a23a13a039fd3fb87d3db4639ecc5cc4cc2,
  0x53fb4e53e53d53c53b53ab4d539546538537536b4c535534b5eb5db4b2ebd45b4accfb49dccdcbdcadc9dc8,
  0xb66b6599454cb64b6355f54a548547b62b612c37352b82b87337312b62aa72f2a82a854954129eb60b5f540,
  0xa8da8cd78a84dbba87de9de8de7de6de5553d7559058f58e58d58c58b55154f98b98758a58954e54d588587,
  0xb50dcdb4fa4cdf0a5ea4fdc0dbfdbedbddbcdefd79deededdecdecdebdeade9a8ea88a8fa85a8ba8aa89a86,
  0xb96d83d82b73df4af7af6b95d81b02e40af5d7249db55e3e48bb6fdf1d7f455d7ed7d554b52dd0b51dcfdce,
  0x55b55a559b58558557556b57291b05affb04afeafdb03afcafbafab01af4db7af9db6b56262af8555439df2,
  0xa90a93dfadf9df8df7df6561b09b08b07b06d84df5df399999856055e55d54bb5a54397355cb59997996995,
  0xa9eaa5aa4a9ca9fe10e0fe0ee0de0c562e00dffdfedfddfddfcdfbdfaa9aa94a9ba91a97a96a95a92a99a98,
  0xe1a564563493a2de17a47a34a2be01a45a32db9db8e16e15e14e13e13e12e11e10aa6aa0aa7a9daa3aa2aa1,
  0x565a30e25a4aa37e24e23e22e21e21e20e1fe1eab2aacab3aa9aafaaeaadaaaab1ab0aa8aabe1ee1de1ce1b,
  0x58456dbbfbbebbdbbc56c56b56bbbbbbabb9bb856a56a569b75b74568bb7bb6567b70e18e02b68b6756645b,
  0xab6abdabcab4ab7e2be2ae29e28e27579e19e0399154257857757657557457357257157056fe2656e8d6585,
  0xe34e0be0a444e09e08e07e06e05a2ee32a48a35e04e31e30e2fe2ee2ee2de2ce2babeab8abfab5abbabaab9,
  0x59e59d59c59b59a599598baebadbacbabbaaba9ba8ba7ba6ba5ba4ba3ba2ba1b9fba0b76b72b71597596b54,
  0x3d03cf3cf3d03cf3cf3d03cf3d23d13ce3ce3ce3d03cf3ce57bb5399a3c146a46546049ae335a15a057a59f,
  0x3db3da3d93d83d53d43d33d23d13cf3d03d73ce3d699b3d33d33d33d53d13d13d23d13d23d13d23d13d43d3,
  0x4e23e53e03e43e43e35a95a83e23e1b795825813ca3c93c83c73c63c53c43c33df3a63c23de57d3dc57c3dd,
  0xb13b12b11b10b0fb0eb0dd4ab0cb0bb0ab00d35af3af2af04a7b7eb7db7ce3657f57eb7bb7ae35b78b77af1,
  0xb82e73e80ae9ae8ae7ae6d4fcd0b81d48cd1e72b7fe71b20b1fb1eb1db1cb1bb1ab19b18b175b0b16b15b14,
  0x5ae5ad5ac5abae5d44cced41d3ecc9cc8b86cc3d4ed3cd39b85cc1b84d49d4bb83263b80e81aedaecaebaea,
  0xbafb2cb2bb2ab9dbc3bc2b9cbc1b9bb29b99b9ab28b27b26b98bc0b25b97b94b24b23b22b93b21aefaee5af,
  0xb3bb3ab39b38b37b36b35b34b33b32b31bb5bcabb4bc9b30b2fb2ebc8bb3bc7bb2bc6bb1bc5bb0bc4b2db9e,
  0x13913913913813813813713613513613513413313413313213113213113012f99e99d99c6b0b3fb3eb3db3c,
  0x1471465b21451445b11431421415b599f9715b4d5c14013f13e13e13e13d13d13d13c13c13c13b13a13a13a,
  0x15c15b15a15915815715615515414f15315215115014f14e5b814d14c14b5b75b65b314a9a19a098f149148,
  0x17117017117016f16e5cb16d16c16c16b16a169168167bcebcdbccbcb16616516416316216116015f15e15d,
  0x9a217d17d17d17c17c17c17b17b17b17a179179179178178178177177177176175174175174173172173172,
  0x9a6cd35c15c05bf5be5bdbdebddbdcbdb5bcbdabd9bd8bd75bbbd6bd5bd4bd35babd2bd1bd0bcf5b99a59a4,
  0x8c55c59c39c29c19c09bf9be9bd9bc9bb9ba9b99b89b79b69b59b49b39b29b15c35c49b09af9ae4329a75c2,
  0x5dc5dd5da5db9c99c89c79c65d75d95cd9c55d85d65ce9c45cc5d5d5d9ad9ac9ab5c89aa5c79a95c69a85ca,
  0x18f18e18d18c18d18c18b18a18918818718618518418321618218121518017f17e9f098e1a98c65e19ca5de,
  0x9f1cd2be919919919919819819819719719719619519519519419419419319319319219119019119018f18e,
  0x61c61b5d25d361a61a61a61a61a61a6195d15d26186186186186176164a85d05c95d16156146135d06125cf,
  0xbe39f49f39f25955945935925915e08cd1a019f19e1a51aa1a419d19c19b5df19a5d461d5d35d461c61c61c,
  0x8ce1b41b35e51b29f51b11b01af5e31ae1ad1ac1ab1a21a81a71a61a31a21a14a92645e2260be8be74cebe5,
  0x9fb1c91c81c71c71c61c59fa9f99f81c41c39f71c21c11c01bf1be5e41bd9f61bc1bb1ba1b91b81b71b61b5,
  0xbe6be262061ebe15e965f6566556546535e81d51d41d31d21d11d05e71cf1ce5e61cd1cc1cb1caa079a31e3,
  0x65b9cc65d2d96525a22d865c65b65a6596585eb6575f36616601d91d81d75ea1d621d21e1db1e49fd1dc586,
  0x63463363263163062f62e62d62c62b62a629628627be062662562462365d6222dc65e62161f6522db2da65c,
  0xa0865064f64e64d64c64b64a64964864764664564464364264164063f63e63d63c63b63a639638637636635,
  0x5ef1eca0c1eb1ea1e95ed1e81e71e61e55a61de1e21e11e01df1de1dd5a55ec5a4a0ba0a1da5a322b22ca09,
  0x204203203202201a0f2001ff1fea0e1fd1fc1fb1fa5ee1f91f8a0d1f71f61f51f41f31f21f11f01ef1ee1ed,
  0xa19a19a19a19ad4be4a135fba1b5f065265265c65e65c65265c5f265e65c6525a720a209208207206a10205,
  0xa1cad9adbad8ad7a18ad6a17ad5a164e3adaa1520f20e20d20c20b306305a12a19a19a19a19a19a009ff9fe,
  0x6627aaa1ea1da1a2df2de6b35836b1234add6676666516bd2dd5fa5f95f7a1aa205f6a1a44d5f55f45f1a14,
  0x5fe5fe5fe5fe5fe66526b26b5fd5fd6646512655aa6636626e9665a2526c5fc6642e06515f8663651a247ab,
  0x5ff5ff5ff5ff5ff5ff5ff5ff5ff5ff5ff5ff5ff5ff5ff5ff5ff5ff5ff5ff5ff5ff26d5fe5fe5fe5fe5fe5fe,
  0x6006006006006006006006006006006006006006006006006006006006006006005ff5ff5ff5ff5ff5ff5ff,
  0x601601601601601601601601601601601601600600600600600600600600600600600600600600600600600,
  0x24a24b24b24a2492482482472e52e42e32e22e1602602602602601601601601601601601601601601601601,
  0x664a216516b2235ae4664a2521721430421321221121025425325225025125024f24e24f24e24d24c24d24c,
  0xac04376b5a286b76b6a1aa1aa29a23a25a27a20a22a25a26651a25a246516636646636516b4663a20664663,
  0x4b24b1266bdfade2d4ad19e94b0adcadc9292d5ad06bb2e66ba80cac680b3a76b96b8ac5ac4ac3ac2ac180a,
  0x4c8309bef4b6ae06e59ce9cd6e46e44cf3084c7beea1fbedbeb4b55804b4adf6bfbecacf6be4b39ea6bcbea,
  0x31030f4cb31030f4b94d54d430e30d4ca30e30d4b86ea4d34d230b30c4c930c30b4b72704d16eb30a4d0309,
  0x6c06ecad29ebae3ae3ad322622522422322222122021f21c21b21a2192183153143134d73114cc3123114d6,
  0x6f86f79ee6f66f56f56f49ed6f36f26f26f19ec4ddbf54dc4db4dabf4bf3bf2bf16f04d96eebf06ed6ed4d8,
  0x41a4199277004c54c44c34c26ff6fe4c14c04bf4be4bd4bc6fdbf66ef4bb4ba92b6fc6fb6fb6fa9ef6f96f8,
  0xc044af4c6233227bfa719267c034af4c62f12f16047ae4af4af45371841841b4c6928714bf94c62ea70e701,
  0x7284af4afa02c074af7b62289d0c097269cf71b71a2fa268255c064af6032f22f22f22f24af4af4af725a01,
  0x6076074cd6086074c6273bf82f44af22971c27227126f26e26926a2694cd6056066054c62f32f32f32f372a,
  0x60a60a60960960a4cd27960a6094c64af23ba032762782742772752762754cd274607607608608607607607,
  0x27b4cd27a60960960a60a60960960a60a60a60a60a60960960960960a60a60a60960960a60a60a60a609609,
  0x60b60c60b60b60c60c60b60b60c60b60b60b60b60c60b60b4cd60c60b4c628128027f4af27e27d27b27c27a,
  0x60c60b60b60c60c60c60c60b60b60c60c60b60b60c60b60b60b60b60c60c60b60b60c60c60c60c60b60b60b,
  0x60d60e60d60d60d60d60e60d2872864c64af2852832842822834cd28260b60b60b60b60c60b60b60b60b60c,
  0x60d60d60d60d60e60d60d60d60d60d60d60e60d60d60d60d60e60d60d60e60e60d60d60e60d60d60d60d60d,
  0x60f4c660f28c28b28a2882894cd28860d60d60d60d60d60d60e60d60d60d60d60e60d60d60e60e60d60d60e,
  0x61128e4cd28d60f60f60f60f60f60f60f60f61060f60f60f60f60f60f60f60f60f60f60f60f61060f60f60f,
  0x29b29d29b29c29b29b29522f22e22d29a2992982972962f62f529529522a29429329029229028f611611611,
  0x2af2af2ae2ad2ad2ad2ac2ab2a92a72a72a62a62a629b2a52a42a42a32a22a22a22a12a029f2f729b29b29b,
  0x72c72b2ca2c92c82c72c62c52c42c22c12c12c02bf2be2bd2bc2bb2ba2b92b72b72b52b42b32b32b22b12b0,
  0xc0bc004cd4cd4cd4cd734a064cd7327307204cda0572ec0c7b771f71ec08a04c0a236bfb71dc057afbff72d,
  0x92d4af4af4c692c4c64af4af4af4af4af4af4af4af4af4af4c64af4c64af4c692a4c6bfec02bfdc01c0dbfc,
  0x92e7a63e67a474974875175074f73774ec1ec0f4af80d747746925716736c1dc0e7157244af7237224af721,
  0x6e86e766a7b47b36e67b17f79d27b0ac87277b27a94cd7a77a53f07ad3e77ac669c25c167f64af7a89d14e8,
  0x7f99dc7f89db4e474d74c739c1fc1080e74b74a717738c26c179da9d99d89d79d63e87b523c9d59d49d36e8,
  0xc23c14c2ac1b9e69e59e47b9c22c13c29c1a9e39e29e14aac21c12c28c199e09df9de7b8c20c11c27c189dd,
  0x7bd7bcaceacd4af4afaccacbaca9e8ac94af4af7bb4af4af4af4af4af4af9e74af4af926c24c15c2bc1c7ba,
  0x73c7ff7fa3e9ae28dd66c66b8944e94ab31c7f580f81381380f7f42307c37eb7eb7c37c17bf67a67773b7be,
  0x89623288d8959cb8183eb8048178108148026c22cb8012313cc3ea3ea7cb7cd7ed7c57c47ec66f7fd8007c2,
  0x7d33f28978b22328928b1c2ec2dc2c8e88b03f16c52373ef3ee3ed7d08ad8ac8ab8a88a78a68a53ec8a4896,
  0x3fa3f93f73f83f83f83f73f68b68b57f58b48092393f33f53f53f53f33f43f33f32fb2388b3ae17d88aa8a9,
  0x3fc3fc3fe3fc3ff4003ff3fe3fe3fd3fc3fc3fc8b723a3f73f73f83f83f83f73f73f73f73f73f73f93fb3f8,
  0x3fe3fe3fe3fe3fe3fd3fd3fc3fc3fc3fc3fc3fc3fe3fe3fe3fc3fc3fc3fe3fe3fe3fe3fc3fc3fc3fe3fe3fc,
  0x4014024024024024024024034014014024024024054034044034024024024013fc3fc3fc3fe3fe3fc3fc3fc,
  0x402403403402402402403403403403401401402402402402402402403402402402403403402402402403401,
  0x402402403403402402402403403403403402402402403403402402402403401401401401402402402402402,
  0x406406406407407407406406409407408407407406401401402402402402402402403401401402402402402,
  0x407408408407407407408406406406406407407407406406407407407407407407408406406407407407406,
  0x407408406406407407407406406406406407407407407407407408406406407407407407407407408407407,
  0x407407407408406406407407407407407407408407407407408408407407407408406406407407407407407,
  0x40a40a40a40a40a40b40b40b40a40a40a40a40b40b40a406406406406407407407406406406406407407407,
  0x40a40a40a40a40b40b40b40a40a40a40a40b40b40b40a40a40b40b40b40b40b40b40c40a40a40b40b40b40a,
  0x40a40a40a40b40b40b40a40a40b40b40b40b40b40b40c40a40a40b40b40b40a40a40a40a40b40b40b40a40a,
  0x40d40d40d40d40d40d40d40d40d40d40d40e40e40e40d40d40d40d40d40a40a40a40a40a40a40b40b40b40a,
  0x8ba7c67ee7ee7c66ac24124023f23e8b923d8b840f40f40f40f40d40d40d40d40d40d40d40d40e40e40e40d,
  0x8c28c18998c02428bf8af8ae8988982428be8bd9848348128168bc7f07c87c77ef8f18bb4e5811815815811,
  0xa118788cc89d8cb89c89c8ca96e8624ac89b8c9c31c30c2f90289a89a8c89fc84c8c77f37f28c48c37f17f1,
  0xac73cb7c04ebbf78d48d366d4ea7f567873b8d28a38a28a28a18a08a08d189f8d0c34c33c3291389e89e8cf,
  0x8de2d34df8dc8db2d22434ae2ce2cd4154144134124de2cc73e73a73a8da4ae4114102434ad4ad4ad4ad8d5,
  0x4e78e48e38e288e4ae2f94ae2ce2ce2cd2f88032434e66c32d22d72437cc7ca4174162d67c973a8e18e08df,
  0x4ec0922ce2f83013006c76c66c42ce2cd7d12437cf24341f8e67ce41e41d2ff41c66e8e52cd2fe2fd2fc4df,
  0x2437d92434207d77d67d58ed2ff3032ff7d47d22cd2f83028914ae8908068052f98ec4ae88f8eb8ea8e98e7,
  0x2ce2437e02437df4217de7dd2ff3037dc3022f87db3028088078934ec0923003006c87032cd2ce2ce2cd7da,
  0x7e52437e43073073073073073073073073073072432437e32437e23027e13073073073078ee2433007292cd,
  0x7e27df7e07d97ea3077e92437e83073073073073072437e72437e6307307307307307307307307307307243,
  0x4a64ee8f78f68f53163163002cd31a3078f48f38f24a68f08ef31a3033163004ed4234223cd7e67e57e47e3,
  0x2ff2ce3003163163003073072ff2ff3002cd2ff8fd8fc8fb8fa8f92ce3162cd3163003073072ff4248f8300,
  0x2ce2cd9069059049039012ce2cd9008ff8fe2cd4ec3073073073073073073072ff3003163073072ff2ff2cd,
  0x4ae6704ae4ae4ae4de73a4ad4ad4ad91991891791691591491291191090f90e90d90c90b90a9099089072cd,
  0x75392f67267192170291c4ae4ae4ae4ae4ae4ae4ae91b4ae91a4ae4ae4ae4ae4ae4ae4ae4ae4ae3033034ae,
  0x42c92267b67967675695394e67594694193c42b93a75575475231b9396c967442a73d937934932673930425,
  0x81a6856846c17fe75868368275781994731e66895f6ca95931d42e68168093573f7fc67f42d67e67d7fb67c,
  0x82182081f81e81d95b6cd6cc6cb32174443181c32075a75996081b95a31f7434ef742936688741687740686,
  0x6d66d56d46d383283183082f82e82d82c82b82a8298283226d26d16d06cf6ce74575b827826825824823822,
  0x76383568e6db76268d68c7618336da68b68a76094f68994293d42f93b75f75e75d6d993832375c7046d86d7,
  0x95068f94393e6dc84a84984884784684584484384284176584083f83e83d83c83b83a839838837430836764,
  0x85c85b85a85985885776b85685585485385285185084f84e84d43376a76976869369276784b6dd691690766,
  0x86a86986886786686586486343477076f76e69869776d8616df69669576c95169494493f6de86085f85e85d,
  0x87943577677577469d69c77387769b69a77295269994594087687587487387287187086f86e86d77186c86b,
  0x7789546a36a26a16a091d69f69e88c88b88a88988888788688588488377788288188087f87e87d87c87b87a,
  0x43e78578478378270695591e43d78178077f43877e7056e36e26e177d6e043677c77b6a777a7796a66a56a4,
  0x44279579479379270a44179179078f78e70995844078d78c78b78a70895792043f78978878778670795691f,
  0x4547a070c44e79f95d44c44b79e79d95c79c79b44a4499246a979a6a894844879979879793144379692370b,
  0x94d6af6ae95e6ad6ab6aa94c93346946494b45f94a45a9494597a37a27a1]⟩

/-- The row of nonterminals of each state. -/
def gotoRow : Packed := ⟨5878, 12, 29, #[
  0x81981081881081781081681081581081481081081081381081281081181081e81e81d81c81c7d77d781b001,
  0x7fa7f97f87eb7f77f67f57f47f37f280f80e80d80c80b80a8098088077ea8068058048038028017f181081a,
  0x7d87e87e964564b64a6496487e76476466457647647637ec7ea7eb7ea7ea7ea7ea7ea8007ff7fe7fd7fc7fb,
  0x60c60a60961060b61260c60a60a60976676176061260976561160b76076060960a6107dc7db7da7d9609609,
  0x6096096096116096097ed60960960f60960960c60e61661561460961160960d61361860976776261760c60c,
  0x55361973770e6ee6cd7b16917917686597e07e57ef7e17df7de7e37f07e67e27dd7ee7e4609609609609609,
  0x65665665500100200200275d75c5535535535535535535537d67d57d45ca7d358a7d27d1553553553553553,
  0x100100100100100100100100100165600100100100100100100100168f00100168e656656656656658657,
  0x65469200100164f00100175f68c65368c61a75b68c75e65265a65a75a690690690690690001001001001001,
  0x6cc6ac68a6386896386896cc79065163767865068d64c6ef73870f6ce7927b26cb6ca6c96c86c76c67696c5,
  0x6e56b578a7896b46b36b26b16b06af6ae6ad63a68868764e68664d64668564578870d6ed7597b06897367d0,
  0x7cb6c47ca6c36c26c16c06bf6be6bd6bc6bb6ba6b96b86e673c6b76b667c67b78f78e78d73b78c67a78b679,
  0x6eb6ea6e96e86e76366356346336326317af7ae7ad7ac7ab7aa68468368268168067f67e7cf7ce7cd7cc67d,
  0x63968b54b76e76d76c76b63b76a76970c70b70a7097087077587577567557547537357347337327317306ec,
  0x65c69361a78578465b78378278178073977f77e77d77c77b77a77977877777677577477377271077177076f,
  0x6aa7696a96a86a76a66a56a46a36a26a16a069f69e69d69c69b69a69969869769669569478765e7867b365d,
  0x7c27c17c07bf7be7bd7bc7bb7ba7b97117b87b77b67b57b479463c65a61a65a61a54c6f069279354c6ab692,
  0x67367267167066f66e66d66c66b66a66966866766666566466366266166061b7c765f6927c67c573a7c47c3,
  0x7a865a7a77a67a57a47a37a27a17a079f79e79d79c79b79a71279979879779679563d65a67665a6757b2674,
  0x6d06cf71363e6ce63061a62f79262e62d62c62b62a62962862762662562462362262162061f61e61d61c6f1,
  0x71a71971871771671571463f70f6e36ce6e26e16e06df6de6dd6dc6db6da6d96d86d76d66d56d46d36d26d1,
  0x74674574474374274174073f73e73d72a64073872970f72872772672572472372272172071f71e71d71c71b,
  0x7006ff6fe6fd6fc6fb6fa6f96f86f76f66f56f46f36f272b64175173875074f74e74d74c74b74a749748747,
  0x54a54a54936036035f72f64472e64375272d6e47a97926ef6777c97c87b272c6427066ef705704703702701,
  0x36113b13b54e13b13b54713a13a00100100100100154700100154735a35a35a35a35735735935935854d54d,
  0x368368368368366366366001001368255362367367364364366362365365363363362364363363362362361,
  0x36136136136136136136136136100400400336136136136a36a366369366369001001001001001001001001,
  0x5b35b25b15b00010010010010040010010010010010010010010010010010010010010010010055af001361,
  0x1001001001001001001001001001001001001001001001001001001001001001001001001001001001001,
  0x15b4001001001001001001001001001001001001001001001001001001001001001001001001001001001,
  0x10010010015b4001001001001001001001001001001001001001001001001001001001001001001001001,
  0x1001001001001001001001001001001001001001001001001001001001001001001001001001001001001,
  0x10010010010010010010015885875865b45b45b45b45b45b45b45b45b4001001001001001001001001001,
  0x55655400100100155455555455e59e59d5e15ae5ad6076065f65f55e35e25c70015c6001608001001001001,
  0x58b56256156055f5825e05cb5b85b755d57f57e55355c55b55a554554554559554554558554554557554554,
  0x5855b65b55bb5ba5b957257157056f56e56d56c5d05cf5ce5cd56b56a5695685a05675665655645635545cc,
  0x5e45e85e75e65da5d95d85d75c55c45d65d55d45d35c95c85ca5d25d15c35c25c15c05fa5f95bf5be5bd5bc,
  0x5f15735845835a25a159f6056046036026016005ff5fe5f85f75fd5fc5fb5f05ef5ee5ed5ec5eb5ea5e95e5,
  0x59259159058f58e58d5de58c5895dd5775765755f45f35745dc5db5ac5ab5aa5a95a85a75a65a55a45a35f2,
  0x54554454454454454454554654459c59b59a59959857d59757c58158058a59659557b57a5795945935df578,
  0x3a73a63a63a63a73a44ce3a13a63a65435423a63a63a34cd3a03a34cd3a00010010013a24cc39f544544544,
  0x3a63a44ce13a13a3a63a63a63a613b13b3a60010010010010010010010010013a64d33a613a3a63a73a44ce,
  0x3a63a63a63a63a63a63a62570070062570082580012573a63a713b13b3a84cf13b13b2560010013a63a13a6,
  0x2573a63a63a63a63a63a62573a63a62570010073a62570012570070010010010010013aa0070072593a63a6,
  0x12572572572572570010010070010010010010070010010070070010010010010070010010012590013a6,
  0x1001001001001001001001001001001257001001001001001001001001001001001001001001001001001,
  0x1001007001001001001001001001001001001001007007001007001001257001001001001001001001007,
  0x536001001001001001001001001001001001535001001001001001001001001001001001001001001001001,
  0x100100100100100100100100100100100100100100100100100100100100100100100100153a539538537,
  0x100100100100100100100100153b53b53b53b53b53b53b53b53b53b53b53b53b53b53b00100153b53b53b,
  0x53f53e53d53b53c001001001001001001001001001001001001001001001001001001001001001001001001,
  0x55000155000152b52b52b52b52b25a52a53053455153053355153053255153053155255153053052f541540,
  0x1000100100100f00e00c00100100100100100100100900100b00a00100100100100100d52900925d25c25b,
  0x1001001001001001001001001001001001001001001001001011011011001001001001001001001010010,
  0x1001001001001001001001001001001001001001001001001001001001001001001001001001001001001,
  0x1001001001001001001001001001001001001001001001001001001001001001001001001001001001001,
  0x3af25e001001001001001001001001001001001001001001001001001001001001001001001001001001001,
  0x1001001001001001001001001001001001001001001001001001001001001001001001001001001001001,
  0x10010010010010010010010010010010010010010010010010010010010013b0001001001001001001001,
  0x3b13ac00126126025f0010010010010013ae3ab00151d42d3da0013af3af3af001001001001001001001001,
  0x3b43b43b43b43b43b43b43b43b43b43b43b43b43b43b43b43b43b43b43b43b43b43b43ae3ab012001001001,
  0x3d03d03d03d00013d03d03d03d03d03d03d03d03d03d03ba3d00163b43b43b43b43ae3ab3ae3ab3b43b43b4,
  0x10010120010140130010013d00013b24d50013ab3d03d03d03d03d04053d03d03d03d03d03d03d03d03d0,
  0x3d03d03d03d03d03d03d03d03d03d03ab3bd3ab3bc3b43ab3bb0010010010010010010010010010013ac001,
  0x10170013d13d152d0153d13d03d03d03d00013d03d03d03d03d03d03d03d03d03d03d03d03d03d03d03d0,
  0x3b33ad3de4d70010010013e73dd4d63db3dc3d03d03d03d00010010010010010010013e20180013d8358001,
  0x10010010010010010010010013b43593b43b43b43b40010010010010010010010013b43b43b40013d03ef,
  0x3b43b43b43b43b43b43b43b43b43b43b43b43b43b43b43b43b4001001001001001001001001001001001001,
  0x10010010010010010010010010010010010010010010010010010010010010010010010013b43b43b43b4,
  0x10013b4001001001001001001001001001001001001001001001001001001001001001001001001001001,
  0x3593d0359001001001001001001001001001001001001001001001001001001001001001001001001001001,
  0x3b43b43b43b43b43b43b43b400152e001001001001001001359001001001001359001001001001001001001,
  0x10010010010010010013b43b43b43b43b43b43b43b43b43b43b43b43b43b43b43b43b43b43b43b43b43b4,
  0x13e13e00010010010010013b73df0010010013b635735700152c3b43b50010013d00010010010010013b5,
  0x10010013e43db3e33b40010010010010013b63d00010010010015280010010013b63d00013b80010013b6,
  0x3e80010010010013b63b93b93b93b60010010010010010010013b60010010010013e63e5001001001001001,
  0x3b90010013f73f63f53f43f33f23f13f00013b93b93b90010010010010010013ee3ad3ed3ec0013eb3ea3e9,
  0x13ff0010010010010013fe0010010010010013fd00100135a35a3fc0013fb3fa3f93f83b93b93b93b93b9,
  0x35a35a00100135a35a00100100100135a35a00100100100100100100100100100100100100100135a35a001,
  0x3d03d03b63d03bf3d03d03d03d03d03d03d03be13b13b13b13b13b13b00100100100113a13a00100113b13b,
  0x4013b94003d03d03d03d03c43c33c23c13c03d03b63d03d03d03d03d03d03d03d03d03d03d03d03d03d03d0,
  0x4073b43b435c3d03e44064043b43e05243df3b400135752700135b3d03b60013b63b60014033b94023b93b9,
  0x100100135a00100100135a0013fa3f83f53f03ff3ec4093e83fe3e53e33b43fd3b435a0013fc0010013d0,
  0x3b43b43b43b43b43b43b43b44034024014003b43d03d000100100100100100135a00100100135a001001001,
  0x3b43b43b43b43b43b43b43b43b43b43b43b43b43b43b43b43b43b43b43b43b43b43b43b43b43b43b43b43b4,
  0x3b43b40010013b43b43b43b43b43b43b43b43b43b43b43b43b43b43b43b43b43b43b43b43b43b43b43b43b4,
  0x13b43b43b43b43b43b43b43b43b43b43b43b43b43b43b43b43b43b43b43b43b43b43b43b43b43b43b43b4,
  0x100140c4da40b4d900100100140a4d840740800100100135e35e00e40440500135b3b43b435d35d001001,
  0x3b43b43b43b43b43b43b43b43b43b43b43b43b40010010010010010010010010010010010013b4001001001,
  0x3d23b43b40013b43b43b43b43b43b43b43b43b43b43b43b43b43b43b43b43b43b43b43b43b43b43b43b43b4,
  0x13b13b13b13b13b13b13b41c41b41a41941841741641541441341241141040f40e40d35e35d35d13a13a35d,
  0x100100100100100100100100100100100100100100100100135d0010010010010010013b413b13b00113b,
  0x1001001001001001001001001001001001001001262001001001001001001001001001001001001001001,
  0x1700100100100100101901900100141e001001001001001001001001001001001015001001001001001001,
  0x3f84233f54223f04213ec4dc4093e84203e54053e341f41d0014214204204db00100141f41f3d941d41d41d,
  0x4e154854e4e04e04e04e03b24df4de3e24dd54835b5474273ff3fe3fd3fc4264034024014002634254243fa,
  0x10010010014e03f742b3ee3ed42a4294093e93b33e64284063db41f3e13d841d00135d54f4e04e04e04e0,
  0x40e3f04213ec4354344334324314304094074073e84203e542f42e4064044043e341f3e042c3df41d35d001,
  0x3fc3e44264034024014003ad4254243fa44244144043f3f84233f543e43d43c43b43a43943843743642240e,
  0x100100100100100100100100100100100100100100100100100100100100126526425701a4273ff3fe3fd,
  0x1001001001001001001001001007001001007525001001001001001001001001001001001001001001001,
  0x100100100100100100100100100100100100100100100100100100100100101c01b001267266256001001,
  0x100100100100100100600100100100100100100100126b26a269268001001001001001001001001001001,
  0x26c001001001001001001001001001001001001001001001001001001001001001001001001001001001001,
  0x48852600100100100100127e27d27c27b00127a27927827700127627527427300127227127026f00126e26d,
  0x1d28345245145044f44e48c44d44c44b44a44944848b4474464454444c548a0012824434c448900127f001,
  0x4b74b84b54b60010010010014b34b40010014b14b20010010014b0288281280287282286282285282284006,
  0x100100100100100100100100100100100100100100100100100100100100100100100101f01d01e0014b9,
  0x85264e2001001001001001001001001001001001001001001001001001001001001001001001001001001,
  0x45e4914bf4c045d45c45b45a4594584904bd4be4574564554544c748f00e4bb28a4bc4534c648e4ba48d01c,
  0x46326526425713b13b13b13a13b01e0200010010010010010010010010010010014c34624c14c246146045f,
  0x2000100100100100100100100100100100100100100100100100100100100100e0010010014e34e328a465,
  0x1001001001001001001001001001001001001001001001001001001001001001001001001001001001001,
  0x4e346428c28b464001507506506505505007001001001001001001001001001001001001001001001001021,
  0x50e00150d00150c13a00150b50a50650550601c505007509508001001001001001467466001001001001001,
  0x2a12a029f29e29d29c29b29a29929829729629529446429329229129051228f00151128e28d51000100150f,
  0x2be2bd2bc2bb2ba2b92b82b72b62b52b42b32b22b12b02af2ae2ad2ac2ab2aa2a92a82a72a62a52a42a32a2,
  0x100100100100100100100100100100113b00100100100100100100113b00113b00100100113b4694682bf,
  0x1001001001001001001001001001001001001001001001001001001001001001001001001001001001001,
  0x4e74e64e54e433446551e28c4ce01c51c51b51a51951851751600751551451313b001001001001001001001,
  0x4cf3353333343345233345223345210173335200010010010010010220220014ec4eb4ea4e94e8001001001,
  0x4ee2894d34d44d100100136d0012c146a3a400136d4ed2c000128e36b36c4ce3d336b4d000100100101b51f,
  0x2ca2c92c82c72c64f80250242c52c44f74f60010194f54f404b4f33cb0232c34f20014f136c4f04ef3c62c2,
  0x2e62e52e42e32e22e12e02df2de2dd2dc2db2da2d92d82d72d62d52d42d32d22d10262d02cf2ce2cd2cc2cb,
  0x3033023013002ff2fe2fd2fc2fb2fa2f92f82f72f62f52f42f32f22f12f02ef2ee2ed2ec2eb2ea2e92e82e7,
  0x32031f31e31d31c31b31a31931831731631531431331231131030f30e30d30c30b30a309308307306305304,
  0x2e02d02c02b02a02902802700100100100100133032f32e32d32c32b32a329328327326325324323322321,
  0x4fb3d44fa33146b3a84f93c500100102200100100100103c03b03a03903803703603503403303203103002f,
  0x10010013c636f36e4cf4d23cf3ca3ce3c93d73d53cd3c85043cc3c75035025015004ff0014fe3d64fd4fc,
  0x37037100133833746d33603d3703a43a525946c33236d00136b00100100100136d36b001001001001001001,
  0x47304346f37433b0870010010420414920404724713aa47046f37200137333a25833600103f37203e33946e,
  0x5305247605105037749849704f04e47504d04c37604a496495049048474047046375042494042045493044,
  0x25805b33605a3a83a933c00100100100100100100100100100100100100105905805749a056477055054499,
  0x6506406304204206206106004204205f05e05d4a000149f49e49d00100100100104249c00100104205c49b,
  0x6b06a2594c837237037237006906937f37e37d37c37b37a001001001379378259042042068067066042042,
  0x7238347b33f00133e46c00107138247a00100107006f38138000106e06d06c47925900133d478001001001,
  0x138a38900107738815900100133e00100146d46c076001001075387074001001001001386385384073001,
  0x7e07d4a207c07b47d00100100138b00146d0010010010010010010014a107a07907847c001001001001001,
  0x8e08d08c08b08a4a400108908847e38c0860010010010010010010010014a300108508408308208108007f,
  0x14a50010a80a70a60a50a40a30a20a10a009f09e09d09c09b09a09909809709609509409309209109008f,
  0xba0b90b80b70b60b50b40b30b20b10b00af0ae0ad0ac0ab4a60aa0a947f00100100138d001001001001001,
  0xd70d60d50d40d30d20d10d00cf0ce0cd0cc0cb0ca0c90c80c70c60c50c40c30c20c10c00bf0be0bd0bc0bb,
  0xe90e80e70e60e50e40e30e200100148038e0010010010010014a70010e10e00df0de0dd0dc0db0da0d90d8,
  0x1061051041031021011000ff0fe0fd0fc0fb0fa0f90f80f70f60f50f40f30f20f10f00ef0ee0ed0ec0eb0ea,
  0x11b48111a0010010010010014a800111911811711611511411311211111010f10e10d10c10b10a109108107,
  0x1350014a900113413313213113012f12e12d12c12b12a12912812712612512412312212112011f11e11d11c,
  0x1001001001001001001001001001001001001001001001001001001001001001001001001001138137136,
  0x1001001001001001001001001001001001001001001001001001001001001001001001001001001001001,
  0x1001001001001001001001001001001001001001001001001001001001001001001001001001001001001,
  0x1403424af4ae4ad4ac0010014ab00100146d4aa00100113f15a46d46c13e00113d34133e46c13c1393404c9,
  0x25939c39b48725948639a39939839739639539439339239148539048438f48325948233e34433e34314133e,
  0x25914e00114d14c14c00100134614b14a14914834514714614525900114414314200146d39e46d46c39d46c,
  0x1571574cb15215615500115000115400100100115334815215114c00100114a4ca14914815034714f001257,
  0x15000115000125f14c14c16114914816015f15e00115d15c15b001001001001001001158157001001001157,
  0x14914816916800100100126c14914816716600100100125b149148165164001001001256149148163162001,
  0x116c00100135435300100100100100135235100135034f34e34d34c34b00134a34925914914816b16a257,
  0x100117e00117d00100135517c17b00117a17917817717614717500117417317217100117016f16e16d001,
  0x18618518415400118300117817717817700100118218100100100100117417317317417417318017f001001,
  0x18800118718e18d18418c00100100100115400118100100100100100100100118b18a189001188001001187,
  0x100100100100100100100119319315000118c00100100100100100100100100119200100119118b19018f,
  0x1001001001001001001001001001001001001193001001001001001001001001001001001001001001001,
  0x1001001001001001001001001001001001001001001001001001001001001001001001001001001001001,
  0x1001001001001001001001001001001001001001001001001001001001001001001001001001001001001,
  0x1001001001001001001001001001001001001001001001001001001001001001001001001001001001001,
  0x1001001001001001001001001001001001001001001001001001001001001001001001001001001001001,
  0x1001001001001001001001001001001001001001001001001001001001001001001001001001001001001,
  0x1001001001001001001001001001001001001001001001001001001001001001001001001001001001001,
  0x1001001001001001001001001001001001001001001001001001001001001001001001001001001001001,
  0x1001001001001001001001001001001001001001001001001001001001001001001001001001001001001,
  0x1001001001001001001001001001001001001001001001001001001001001001001001001001001001001,
  0x1001001001001001001001001001001001001001001001001001001001001001001001001001001001001,
  0x1001001001001001001001001001001001001001001001001001001001001001001001001001001001001,
  0x1001001001001001001001001001001001001001001001001001001001001001001001001001001001001,
  0x198174173197196195001001001001194001194001001001001001001001001001001001001001001001001,
  0x1931931871a019f18c00100118719e19d18415400119c17817718117317417417300119b19a178177199160,
  0x11aa1a918718c1871a81540011a71a618718c0010010010011871a51540011a41811731731a31a21731a1,
  0x10011b217b00118700535617b1b11b01af1ae1871871ad1871871ac15418718c0010010010011871ab154,
  0x10010170010011c11c01bf1be1bd0010010010011bc1bb0011ba1b90011b80010011b71b61b51b41b3001,
  0x1ce0010010010011cd0761cc1cb1ca1c91c80011c71c60011c51c40270010010010011c30011c2001001001,
  0x1d91d81d71d61d51d40010010011d31d200102a0010280010010010010011d10011800011d00010010011cf,
  0x2c00102b0010010010010011e21e11e00010011df1de1dd0011dc0010010011db0011da001001001001001,
  0x1f003000102f0010010010011ef1ee0011ed1ec0011eb0010010011ea1e91e81e70010011e61e51e41e3001,
  0x10370012001ff1fe1fd1fc1fb1fa1f90490481f80340010330011f70011f61f51f40440011f31f20011f1,
  0x100100100100105600103c00120b20a05320905203b00103a00120820720620520420320220104f04e038,
  0x21721600100100121521421321221104000100100100e00100121020f20e20d20c001001001001001001001,
  0x22922822722622522404704622322222122021f00100100100100121e21d21c21b21a045043219001001218,
  0x23523400100100100100123323200100100123123005905805705505405105022f22e22d04d04c22c22b22a,
  0x24023f23e23d23c23b23a239238237001001001001001001001001001001001001001001001001001001236,
  0x100100100100100100125425325225125024f24e00124d00124c24b24a249248247246245244243242241,
  0x1001001001001001001001001001001001001001001001001001001001001001001001001001001001001,
  0x1001001001001001001001001001001001001001001001001001001001001001001001001001001001001,
  0x1001001001001001001001001001001001001001001001001001001001001001001001001001001001001,
  0x1001001001001001001001001001001001001001001001001001001001001001001001001001001001001,
  0x1001001001001001001001001001001001001001001001001001001001001001001001001001001001001,
  0x1001001001001001001001001001001001001001001001001001001001001001001001001001001001001,
  0x1001001001001001001001001001001001001001001001001001001001001001001001001001001001001,
  0x1001001001001001001001001001001001001001001001001001001001001001001001001001001001001,
  0x1001001001001001001001001001001001001001001001001001001001001001001001001001001001001,
  0x1001001001001001001001001001001001001001001001001001001001001001001001001001001001001,
  0x1001001001001001001001001001001001001001001001001001001001001001001001001001001001001,
  0x1001001001001001001001001001001001001001001001001001001001001001001001001001001001001,
  0x1001001001001001001001001001001001001001001001001001001001001001001001001001001001001,
  0x1001001001001001001001001001001001001001001001001001001001]⟩

/-- The tokens that are looked for in each state. -/
def lexMode : Packed := ⟨5878, 4, 88, #[
  0x4333444443444444333333331111111113111111111111111311111111111111111111111111111111112210,
  0x2225555555555333333333333344444444444344444444444444444444444444444444444444444444433334,
  0x1111144144111111111111111115555555555555551555555551551111111111555511222222211121211222,
  0x1111111111111111111111111111111111111111111111111111111111111111111111111111111111111111,
  0x1111111111111111111111111111111111114111111111111111111111111111111111111111111111111111,
  0x1111111111111111111111111111111111111111111111111111111114111411111111111111111111111111,
  0x1111111111111111111111111111111111111111111111111111111111111111111111111111111111111111,
  0x2222224422222211111111111111111111111111111111111111111111111111111111111111111111111111,
  0x1111116122222222221112222222221111111122222221121244222222222222222222222222111112112222,
  0x1111111111161111111111111111111111111111111111111111111111111111111166661111111111111111,
  0x6661616111111111111666666666666111111111111111111111111111111111111111111611111111111111,
  0x6666666666666666666666666666666666666666666666666666666666666666666666667776666666666666,
  0x6666666666666666666666666666666666666666666666666666666666666666666666666666666666666666,
  0x2222242224422222422244222244444444424222224222222422288222422421112428888888888886666666,
  0x2222221222212222222222242222222222221221212222222224222222222222221422122222222222222142,
  0x2222224222226666622222222222644222222224422222222222222222222222224222222222222222212222,
  0x6166166166116666666666222222222222222222222222222222222666666666666666226662222222222222,
  0x5555555555555555555555555555555555555555555555555555555555555555555555515555151511111516,
  0x5555555555555555555155555555555555555555555555555555555555555555555555555555555555555555,
  0x5555555555555511555511555555555115111511155555555555555555555555555555155555555555555555,
  0x5515155155555555555155955555555115155555155555555555555555555555555555551111555555555555,
  0x5551555555555555555551111155511111555555555551511155555515555555555555555555555555555555,
  0x5555555555555555555555555555555555555555555555555555555555555555555555555555555555555555,
  0x5555555555555555555555555555555551555555155551555555515155555555555555555555555555555555,
  0x5555555555555555551155555555111555555555555155555555555119555551555511515555555555555555,
  0x5115559115555555555555511551555551555551551115111155555555111111115555555555111151111555,
  0x5151115111551151555555151551515555555555555555555555555555555555555551111115555115511115,
  0x5555555555555555555555555555555555551111555555555155515555551559151111111111151511155515,
  0x1511115551111555115115155115555555555555555555555555555555555555555555555555555555555555,
  0x1111111111111111111111111111115555555555555555555555555555555555555555555555511155555551,
  0x1156666611661115555555565566666666666666666661666666666666666666666666666666616555555119,
  0x1111111111111111111111111111111111111111111111111111111111111111111111111111111111111111,
  0x7777777777777777777777777777111111111111111111111111111111111111111111111111111111111111,
  0x7777777777711111111111111111111111111111111111111121111111777111111117771771711777777777,
  0x1111111111111111111111111111111111111222221111211112111121111277777777777777777777777777,
  0x1111111111777777777777777777777777777777777777711111111777771111111111111111111111111111,
  0x1111111111111111111111111111111111111177711111111111111111111111111111111111111111111111,
  0x1111111111111111111111111111111111111111111111111177111111117777771111111111111111111111,
  0x1111111311111111111111111111111111111111111111111111111111111111111111111111111111111111,
  0x111711111111aaaa1a1a11a177711111aaaaa111aaaaa1111111111111111111111111111111131111111311,
  0x1111111111111111111111111111111111111111111111111111111113171111111171111111111131111111,
  0x1111111111111111111111111111111111111111111111111111111111111111111111111111111111111111,
  0x1111111a111111111111a111111a111111111111111111711117777777717711111117111711311711111111,
  0x11111111111111111a111a111111111111111111111111111111111111311111111111111111113111111111,
  0x111111111111111111121a111111111111111117a11111111111111111111111111111111111111111111111,
  0x111111111111111111111111111131111111111111111111111111111111111111111111111111111111a111,
  0x1111111111111111111111111111111111111111111111111111111111111111111111111111111111111111,
  0x1111111111111111111111111111111111111111111111111111111111111111111111111111111111111111,
  0x1111111111111111111111111111111111111111111111111111111111111111111111111111111111111111,
  0x111cb1111171cb711111111111111111111111111111aaaa1a1a111111111111111111112a111a1331111111,
  0x1cbcb1111cbcb1111cbcb111111111cb11171cb111111121112221112a11111a111111111cb1111111111111,
  0x1111111111111111111111111111111111111111111111111111111111111111111111111111cbcb1cbcb111,
  0x11111111121111111111111111111111111a1111111111111111111112111111111111111111111111121111,
  0x1111111111111111111111111111111111111111111111111111111111111111111111111111111111111111,
  0x1111111111111111111111111111111111111111111111111111111111111111111111111111111111111111,
  0x1111111111111111111111111111111111111111111111111111111111111111111111111111111111111111,
  0x1111111111111111111111111111111111111111111111111111111111111111111111111111111111111111,
  0x1111111111111111111111111111111112111112111111111111111111111111222212111111111111111111,
  0x1111111111111111111111111111111111111111111111111111111111111111111111111111111111111111,
  0x1111111111111111111111111111111111111111111111111111111111111111111111111111111111111111,
  0x1111111111111111111111111111111111111111111111111111111111111111111111111111111111111111,
  0x1111111111111111111111111111111111111111111111111111111111111111111111111111111111111111,
  0x111111111111111111111111111111111111111111111e11111111111111111111111d111111111111111111,
  0x1111111111111111111111e11111111111111111111111111111111111111111111111111111111111111111,
  0x111111111111111111111111111111e1111111111111111111111111111111111111e1111111111111111111,
  0x1111111d1111111d111111111111111111111111111d1111111111111111111111111111111111111e111111,
  0x111111111111111111111111111111111111111111111111111111111111111111111d]⟩

/-- The context tokens that are looked for in each state. -/
def contextMode : Packed := ⟨5878, 4, 88, #[
  0x3222333332333444222222222222222222222222222222222222222222222222222222222222222222223321,
  0x4433333343443222222222222233333333333233333333333333334443333333333334444344334433322223,
  0x2222233233222222222252222224444444444444442444444442442222222222444422333333422232322333,
  0x2222222222222222222222222222222222222222222222222222225222222222222222222222222222222222,
  0x2222222222222222222222222222222222224222222222222222222222222222222222222222222222222222,
  0x2222222222222222222222222222222222222222222222222222222224222422222222222222222222222222,
  0x2222222222222222222222222222222222222222222222222222222222222222222222222222222222222222,
  0x4444444444444422222222222222222222222222222222222222222222222222222222222222222222222222,
  0x5525522233333333332223333333335555552244443335542333333344443344333344444444222224224444,
  0x2222222222222222222222222222222222222222222222222222222222222222222222225522222555555555,
  0x2222222222222222222222222222222222222222222222222222222222222222222222222222222222222222,
  0x2222222222222222222222222222222222222222222222222222222222222222222222222222222222222222,
  0x2222222222222222222222222222222222222222222222222222222222222222222222222222222222222222,
  0x4444444443334334444333344333333333333344444443344443322334444442224442222222222222222222,
  0x4444342334424433333333334444444333332342324333333333334343343333332343233333333343443233,
  0x3333333344442222233333333333233334334333334433333333333343433433433444444343333344423344,
  0x2522522522552222222222333333333333333333333333333333333222222222222222332223333333333343,
  0x3333333333333333333333333343333333333333333334443333333333333333334333323333545422222322,
  0x3333333333333333333543433333333333333333333333333333333333333333333333333333333333333333,
  0x3333333333333355444455444434433554555455533333334433333333333333333333533333333333333333,
  0x4453533534444443334544343444344554544444544444444444444444444444434433335555333333333333,
  0x4432333344444444333445555533355555444444444335455244444424444443444444444444444444444444,
  0x4444444444444444444444444444444444444444444444443333333333333333333334444444444444433444,
  0x4333333333333333333333333333333342444433244332444434324244444444444444444444444444443444,
  0x3333334444444333335544444444555343333344444244434434433554444435433322423344444444333444,
  0x3223434224444444444433422445444445434445342253555533333344555555553333444444555545555333,
  0x3245553525332232434333535335354444333334344444444444444444343444444435555554433553355223,
  0x3333333333333333333333333333333333335555344333444233323334432333245555555555535325543453,
  0x5355553335555333223553233223333333333333333333333333333333333333333333333333333333333333,
  0x2222222255555555555555552222223334333333333333333333333333333333333333333333322233333335,
  0x2232222222222223333333353355555555555555555552555555555555555555555555555555525333333223,
  0x2222222222222222222222222222222222222222222222222222222222222222222222222222222222222222,
  0x2222222222222222222222222222222222222222222222222222222222222222222222222222222222222222,
  0x5555555555552222222222222222222222222222222222222222222222555222222222222222255222222222,
  0x2525255555555555555555555552555522252222222222222222222222222266655555555555555555555555,
  0x5555552222666666666666666666666666666666666655555555555555555562555552222552255222522225,
  0x5555555565555555555555555555555552252222255555665555555555555555555555555555555555555255,
  0x5225522222222222222222222266666556656522552222222266666666666666666555555555555555555555,
  0x6666666266666666666662666666626266626655555555555555555555555555555555555555555555255552,
  0x2222222222227777272722722222255622222555222272252222222222222266666666666666626666666266,
  0x5555555555555555555555555555555555555555555555255552222222225525222222222225522222222225,
  0x5555555555555555555555555555555555555555555555555555555555555555555555555555555555555555,
  0x2222222725222222222272222227222222222222222222222222222222222222222222222222222255555555,
  0x2222222252225522572227222225555666666626266266266222662662222662662525626262222225526222,
  0x2255625222222255622228256222252222555222822225522222222222222222222555525555255552555522,
  0x5555555555555555555555255522255555555255555555552552522222555555525552222255225622228222,
  0x2555552555555555555555555555555555555555555555555555555555555552552555255555525555555555,
  0x5555555555555555555525555552555555555555555555555555555555555555555555555555555555555552,
  0x5555555555555555555555555555555555555555555552555555555566655555225565555555555525555555,
  0x2559922552259922222222222222222222222222222288886868222255255225562226562826282225555555,
  0x2999922229999222299992222225559925525992222252222222222227222227222252552992222222625522,
  0x5222222222255222222222222252222222222222222222222225522222222222222222222222999929999222,
  0x5555555522555555555555555555555522282255555555225222225222222222252255525522222522222222,
  0x5555555555555555555555555555555555555555555555555555555555555555555555555555555555555555,
  0x5555555555555555555555555555555555555555555555555555555555555555555555555555555555555555,
  0x5555555555555555555555555555555555555555555555555555555555555555555555555555555555555555,
  0x5555555555555555555555555555555555555555555555555555555555555555555555555555555555555555,
  0x2222222222222222222222222222222222255222222222222222222222222222222222255555555555555555,
  0x2222222222222222222222552225525222222222555522222225522222222222222222222222222222222222,
  0x2222222522222222222222222222222222522252222222222222222222222222222222222225525525252222,
  0x5522222222222255522222222555222222222222222222222222222222222222222222222222222222222222,
  0x2222222222222222222222222222222222222222222222222222222222222222222222222222222222222222,
  0x222222222222222222222222222222222222222222222222222222222222222222222a222222222222222222,
  0x2222222222222222222222222222222222222222222222222222222222222222222222222222222222222222,
  0x2222222222222222222222222222222222222222222222222222222222222222222222222222222222222222,
  0x2222222a2222222a222222222222222222222222222a22222222222222222222222222222222222222222222,
  0x222222222222222222222222222222222222222222222222222222222222222222222a]⟩

/-- The base of each row of actions. -/
def actionBase : Packed := ⟨4053, 12, 29, #[
  0xf00f00f00f01700f00f00f00f00f00f00f00f002005004002002002002007002002002002002000000000,
  0xf00f00f00f00f00f00f00f00f00f00f00f00f00f00f00f00f00f02600f00f00f00f00f00f00f00f01c00f,
  0xf00f00f00f00f04d04f04e04d00f00f00f00f00f00f00f00f00f00f00f00f00f00f00f00f00f00f00f039,
  0xf00f00f00f00f00f00f00f06706906806700f00f00f00f00f00f00f00f05e05d00f00f00f00f00f00f00f,
  0x8f00202408808808808808802300c00900300f00f00f00f00f00f00f00f00f00f07907800f00f00f00f00f,
  0x9209209209209209209209209209209209209209209209209209209209209209209209209209209208f08f,
  0x920920ba0ba0920920c30920920920920920bb0bb0bb0920b90920b70b6092092092092092092092092092,
  0x92092092092092092092092092092092092092092092092092092092092092092092092092092092092092,
  0x920920920920920920fd0920fb0fa092092092092092092092092092092092092092092092092092092092,
  0x92092092092092092092092092092092092092092092092092092092092092092092092092092092092092,
  0x9209209209209209209209209209209209209209209209209209209212a092092092092092092092092092,
  0x152152092092092092092092092151092092092092092092092092092092092092092092092092092092092,
  0x92092092092092092092092092092092092092092092092092092092092092092092092092092092092092,
  0x92092092092092092092092092092092092092092092092092092092092092092092092092092092092092,
  0x1a70920920920920920920921a81a80921a60921a41a3092092092092092092092092092092092092092092,
  0x920920920920920920920920920920920920920920920920920920920920920920920920920920920921a7,
  0x1e10920920920920920920921e21e20921e00920920920921db1da092092092092092092092092092092092,
  0x920920920920920920920920920920920920920920920920920920920920920920920920920920920921e1,
  0xf30ec0df0cc0bf09209209221d21c0920920920920920922152140920920920920920ac0ab0aa0b00ae092,
  0x9209209209209209209223a23a09209209209223323423323209209209209209209222b22a092092092092,
  0x255255255255255255255258255255255247243243243243243243243243243243243243243243244244243,
  0x25525524d24c25525525525524b24a25525524926f25525526b26b26a255248255255260264255262260260,
  0x25525525525525525525525525529025525425325225525525525125025525525525524f24e255255255255,
  0x2552b52552552552552552552552552552552552a92552a725525525525525525525525525529d255255255,
  0x2d30920922cf2cf2ce0920920922432552552552552552552552c22552552552552552552552552552552b7,
  0x2d72eb2eb2eb2eb2eb2ea2d72e82e72e62dd2d72d72d72d72d72d72d72d72d72d72d72d72d72d726b0922d4,
  0x3073073073073073073070923043043030920920920920920920920922f92f92d70922d72d72d72d72d72d7,
  0x3233233283233263233233230fb2d72d72d72d70922d731b092092317317316092307307307307307307307,
  0x33133a33a33133133133133133133133b33b33b33133933133733633133133133133132f32f323323323323,
  0x331331331331331331331331331331331331331331331331331348331331331331331331331331331331331,
  0x33133137f33133133133133133133133133133133133133133133133133133133133134d331331331331331,
  0x331331331331331331331331331331331331331331331331331331331331331331331331331331331331331,
  0x3b23b13b03af3ae3ad3ac3ac3ac3ac3ac3ac3ac3ac3ac3ac3aa3a93a93a83a7323380331331331331331331,
  0x3cd3cd3cd3cd3cd3cd3cd3cd3cd3cd3cd3cd3873cb3233b63b53b43b33b23b13b03af3ae3ad3b63b53b43b3,
  0x3cd3cd3cd3cd3cd3cd3ef3cd3cd3cd3cd3cd3cd3cd3cd3cd3cd3de3e03e03e03e03dc3dc3cd3dc3cd3cd3cd,
  0x3cd3cd3cd3cd3cd3cd3cd3cd3cd3cd3cd3cd3cd3cd3cd3cd3cd3cd3cd3cd3cd3cd3cd3cd3cd3cd3cd3cd3cd,
  0x1e43233233233233233234284274264253233cd39038f3cd3cd3cd3cd3cd3cd4184184184173cd3cd3cd3cd,
  0x44c4302d732332332344644544444332332332332332332332343b43a4394383234364300bd33d1aa431430,
  0x46932346746646546432346246146045f32345d45c45b45a32332345745645545432344e45145044f44e323,
  0x48642809b09a48209209209247e00f47c00f47a00f47800f47600f00f47300f00f00f00f03a00246c46b46a,
  0x924a20924a00bc49e2de49b49b4994984983ac09b09a49446749149148a0d70d609b09a3ab48a45109b09a,
  0x4af4af4af4af4af4af4af4af4af4af4af4af4af4af4af4af4af4af4ae4a64a64a64a64a64a64a64a64a44a4,
  0x4a64cd4cd4cd4cd4cd4cd4cd4cd4cd4cd4cd4cd4cd4cd4cd4cd4af4c64c64c64c64c64c64af4af4af4af4af,
  0x920924f80920920924a44aa4aa4f14aa4e84a64a64a64a64e94e94e74e74a64a64df4df4df4df4df4df4a6,
  0x51751644f4df51326551126550f2654fe5012d750a33c4df4df4a62554e44e45024e45000920924fd0924fb,
  0x4394730c33a64a645552a52d52a52b1010fa49e5273315253443315223313313314a63314263312de2e02df,
  0x55150e54f50d54d0c953354a4445485423a654554254254254152e07947e53d06847c47a05e47847653604e,
  0x52f54512511f12311311d4a410846a4654a64604a64a651155e52551c54c55a0c95425570c909202645b4df,
  0x58858758858758758458458458158158157e57e57e26157c3cd3e23a64a65770c952f57357300051351150f,
  0x5a857e5a059e59c59a59859659759659759659759659759659759659658158f58d58b589587588587588587,
  0x5c45c45915c20925b85b85b85b85b85b85b85b85b80000924e75b45b30925b10045ab5ab5ab5ab5ab0005a8,
  0x925df5e01e30925dd5d05db5d05d95d05d55d65d05d05d05d05d05d04cd5b60925cc0925ca1a95c45c45c4,
  0x5fa5fa5fa5fa5fa5fa2d74af5f74af4af5f41665f25f10bb4eb0925ed0925ea4ea0925b75b45e60040925e3,
  0x6156156126156126156146126136136125fc6036026036016036006035ff6036035fe6035fd6035fc5fa5fa,
  0x6336336336336336336335fa6276276276276276276276276276276275fa6236236235fa5fa6205fb61e5fb,
  0x6526526526526526512cd6456456456456456456456456456456455fa633633633633633633633633633633,
  0x66866866866866866e6686686686686686686670bb4af65165165165165e65e65e652652652652652652652,
  0x66866866866866866866866866866f668668668668668668668668668668668668668679668677676668668,
  0x6686686ab668668668668668668668668668668668668668668668668668668668668668668668668668668,
  0x6c16c16c16c16c16c16c46c16c16c16bf6bf4e82556bc2f94af4af4af4af4af4af6b40b84af6b14df668668,
  0x6e66e66e523b2556c16c16c16c16c16c16c16c16c06c16c16c16c16c16c16c16c16c16c16c16c16c16c16c1,
  0x7027027027012d74a62d72d72222552552552552552552552552552552552552556ee2222552552556e96e5,
  0x7197197197197197197197197192d441871671471467971270f71070f70e2d7701702702702702702702702,
  0x73a73d73a73a73a7367367367363cd73425573225573025572e2554a672b0043ea7283ea726152418719719,
  0x7527527527527527527527527517527507502600923cd7467467467467467467463cd73a73a73a73a73a73a,
  0x752752752752752752752752752752752752752752752752752752752752752752752752752752752752752,
  0x752752752752752752752752752752752752752752752752752752752752752752752752752752752752752,
  0x3237b10000927ae7ad5813cd7aa7a87a83237a60927a4323752752752752752752752752752752752752752,
  0x7cf7c37c37cc7c37ca7c37c37c37c37c37c37c37ae7c13237bf3233cd3cd4a62dd23b1e31a97b57b5323092,
  0x7eb7eb5a87c37c37c37c37c37c37c37c37c37c37c37c37c37c37c37c37c37c37d77c37c37c37c37d27c37c3,
  0x8038088038038038038038023236c17c37c37fb7fc7fb7fa7c37f57f57f57f56686c17eb7eb7eb7eb7eb7eb,
  0x8198198198198198198198198198198198198198198188036c281381381380380f80e80f80d80d80280380a,
  0x819819819819819819819819819819819819819819819819833819819819819819819819819819819819819,
  0x81981981981981981981981981981981981981981981981981981981981981984b819819819819819819819,
  0x819819819819819819877819819819819819819819819819819819819819819819819819819819819819861,
  0x8968968968968966c188d88d88d89188d88d88d88d7f6819819819819819819819819819819819819819819,
  0x6c17c37c37c300061e7c38030928ad8ac8ac3057c38a78a78a766873c7c37c3896896896896896896896896,
  0x2dd6c14724a688d80388d8cd8cc4a680388d80388d6c18c58c44a66c17c37c37c38037f888d6c188d6c16c1,
  0x3cd8f06686682d73cd6686686686688e76683cd3cd6686686683cd3cd6683cd8dc6686686688d88d78d68d5,
  0x6686686686686686686686686686686686686689016686686686686686686686686683cd6686686683cd3cd,
  0x92592a92792892792592592192192192100091c91c91c91c000668668668668668668668668912668668668,
  0x94694694600094194194194100093c93c93c93c00093a00000093700093493400093200093000000092592c,
  0x9650be9630fe96146e00000095995995995995900095395395395395300094e94e94e94e000946946946946,
  0x97b97b97b97b97b97b97b97b33e9789782eb55154f97438097197196f96f0c4965965965965965965965965,
  0x7b80924e84e84e84e83cd4fd5002de2e02df0c526499199010098e98d52a98b98998997798798598597697b,
  0x9b89b89b89b89b86156129b39b39b36159b16126159ae6129a79a79a79a79a79a76686127b97b99a27b97b8,
  0x9cb9cb9cb9cb9cb9cb9cb9cb9cb9cb9cb9cb9cb9cb9cb9c49c49c49c49c49c49c45cc6159bf9bf9bf615612,
  0x9f59f55e37ba7ba7ba5b40929cb9cb9cb9cb9cb9cb9cb9cb9cb9cb9cb9cb9cb9cb9cb9cb9cb9cb9cb9cb9cb,
  0xa13668a11a0aa0aa0aa0aa0aa0aa0a5eda085fa0929fc9fc9fc9fc9fc9fc9fc9fc9fc9fc9f59f59f59f59f5,
  0xa2aa2ea2ea2aa2aa2ba2aa25a20a24a24a24a24a20a20a20a204dfa1aa1aa1aa1aa1a0922d7a13a13a13a13,
  0xa4ba4ca4ba20a48a48a44a44a45a44a43a38a41a40a3fa3ea3da3ca3ba3aa39a38a31a35a35a31a31a32a31,
  0xa5ea69a68a67a66a65a64a63a62a61a60a4fa5ea5da5ca51a5aa59a58a57a56a55a54a53a52a51a4ea4fa4e,
  0xa87a86a85a84a4fa48a81a80a7fa7ea7da7ca7ba7aa79a78a35a45a75a74a73a72a71a70a6fa6ea6da6ca32,
  0xaa4aa3aa2aa1aa0a9fa9ea9da9ca34a43a99a98a97a96a95a94a93a92a91a90a32a5ca8da8ca8ba8aa89a88,
  0xac0ac080aa43abdabcabbabaab9ab8ab7ab6ab5ab4a35a48ab1ab0aafaaeaadaacaabaaaaa9aa8a35a43aa5,
  0xadcadcadc668adaad4ad4ad4ad4ad4ad4ad3ad0ad1ad07b1ac7ac7ac7ac7ac7ac7ac7ac7ac0ac0ac0ac0ac0,
  0xaf4af4af4af4af4af4af4af4af3af0af0af0aefae5ae5ae5ae5ae5ae5ae5ae5ae5ae5adcae3ae2ae1adcadc,
  0xaf0af0af0af0af0af0af0af0af0af0af0af0af0af0af0af0b01b01b01b01b01b01b01b01b00af0af4af4af4,
  0xae5ae5ae5ae5ae5ae5ae5ae5ae5ae5ae5ae5ae5ae5ae5ae5ae5ae5ae5ae5ae5ae5af0af0af0af0af0af0af0,
  0xaeeb09b08b07b06afdafaaf9af8b05affb04afeb03afbb01af7af4b02af5ae5ae5ae5ae5ae5ae5ae5ae5ae5,
  0xb69b69b69b69b69b69b69b5cb5cb5bb5cb5bb5cb5bb5cb5bb5cb5bb5cb5bb5bb55b55b55b55b55b55b54b53,
  0xb88b88b88b88b88b87b01b29b25b7bb78ae5ae5b7fb69b0eb7cb0ab7aaf2b78b77af0b53b73b73b70b70b70,
  0xb9fb9fb9fb9fb9fb9fb9fb9fb9fb9fb9fb9eb93b93b93b93b99b93b93b94b95b94b93ae2b8db8db8db8db8d,
  0xb93b93b93b93b93b93b93b93b9fbb6b9fbb6b9fbb6b96b9ab94b97b93b93b93b93b93b93b9eb9fb9fb9fb9f,
  0xbdfbe0be0be0bdf668bcbbcbbcbbcbbcbbcbbcbbcbbcbbcbbcbbcbbcbbcbbcbbcbbcbbcbbcbae1b93b93b93,
  0xbf9bf9bf9bfabfabfabfabf98b4bf7bf0bf0bf0bf0bf0bf0bf06ee7fbbed0927b1bea7fbbe6be6be6be4be4,
  0xc1d000c0ec0ec0ec0ec0ec0ec0ec0fc0fc0fc0fc0fc0fc0e000c0c303c0a3038b4c06c06092c03c03092bf9,
  0xc3ac39c36c36c36c35a1a668668668668668668668668668c1dc1dc1dc1dc1dc1dc1dc1ec1ec1ec1ec1ec1e,
  0xc48c56c55c48c48c48c48c48c48c48c48c48c48c48c48c48c39c46c45c42c43c42c39c36c3dc3ec3dc3bc3b,
  0xc73c73c71c71c70c55c6ec6cc6cc56c48c67c67c67c66c48c64c63c48c48c60c5fc48c5dc5cc48c4ac59c58,
  0xc91c3dc3dc73c8dc73c8ac8ac89c73c87c72c73c84c73c82c72c73c73c7ec72c73c73c73c73c73c73c73c73,
  0xcae451c59c5bc55ca9ca2c6bc36c36c36c36ca2c73c9ec9ec9ec8bc9cc9bc7fc43c98c72c6ec95c3bc93c3d,
  0xccbb95b95cc8cc4cc4cc4cc4b95cc2b95cbecbecbeb9545d43b457cb8428cb1cb0cb2cb2cb2cb2cb1cb0caf,
  0xce8cd6ce3ce4ce4ce3cd6cd7cd7cd7cd7cd7cd7cd7cd7cd7cd7cd7cd5cd5cd4c55cd274fcd0b97b95ccbccb,
  0xd04d03d02d02c90d00cfbcfccfccfccfbcfacf9cf7cf7c3dcf5cd7cf3cf1cf0cf0cefcd7cedcd6cebcd7ce8,
  0x98dd20d20428d1dd1dd1ad1ad1ad17d17d17d14d14d14d02d11d11d0bd0ad09d0cd0cd0bd02d02d02d04d03,
  0xd3fd3ad3dd3ad3ad3ab93d38d37cc0d34d34b95cafd24d2cd2cd2cd2cd2cd2ad2ad25d24d27d26d24d24451,
  0x5b4cd2d56d56d56d56d56d51d51d51d51d51d50d4ed4eb93d4bd4bb93d35d48d46d46d3bd3ad43d3ad3ad3f,
  0xd76d76d76d76d72d73d73d72d63d70d63d63d63d63d63d63d63d63d63d63d63d63d63a42d61d34d5ed5ed1a,
  0xd95d95d92d92d92d88d86d86d86d86d86d86d86d86d86d86d86a5bd76d80d80d80d80d76d7ad7ad7ad7ad7a,
  0xdaadaadaadaadaadaadaadaadaadaaa76d9dd9dd9dd9dd9dd9dd9dd9dd9dd9dd9dd9da6ad92d9ad98d98d92,
  0xdc1dc1dc1dc1dc1dc1dc1dc1dc1dc1dc1dc1dc1dc1dc1dc1db6dbadbadbadbadbadbadb6db6db6db6daadaa,
  0xde5de5de5de5de5de5de5de5de5a8ede3de2adcdd5dd5dd5dd5dd5dd5dd5dd5dd5dd5dd5dd5a82dd1dd1dd1,
  0xe02e02e02e02e02e02e02e02e02df6df6df6df6df6df6df6df6df6df6df6df6a9adf1df1df1df1de5de5de5,
  0xe27abee1ae1ae1ae1ae1ae1ae1ae1ae1ae1ae1ae1aab2e18e0ce0ce0ce0ce0ce0ce0ce0ce0ce0ce0ce0caa6,
  0xe42e42e42e41e40cd0e3eae5e38e38e38e38e38e37de2d37d4be33e27e27e27e27e27e27e27e27e27e27e27,
  0xe4be4be4be4be4be4be4be4be4be4be4be4be4be4be4be4be4be4be4be4be4be4be4be41e41e41e41e41e42,
  0xe74e7de7ae7ae7ae77e77e77e75e75e74e71e72e71925e6ee6ce6ce6ce6be69e69e65e67e65e65e64e4be4b,
  0xe8be8be8be8be8be8be8be8be8be8be8be8be8be8be8be8be8be8abcb3e2e84e84e84e84e83e82e81e7fe7f,
  0xeadeadeadeadeadeadeadeadeadeadeadeadeaceabe8bea1e9ee9eea1ea1ea0ea1ea1ea0ea0e9fe9ee8be8b,
  0xed3ed3ed3ed1ed1c70ecfecee8aecbecbecae8aec7ec7ec6e8aec3ec3ec2e8aec0ebfe8beaceaceadeadead,
  0xef2ef1edbed3ed3ed3ed3edbedbedaedbedbedaedaedbedbedbedbedbedbedbedbedbedbed9ed9ed1ed3ed3,
  0xf0ff0eed3eeaf0af0af09f08f04f06ee7efff02f02f00f00effee6eeced3ed3ed3ed3ed3ed3ed3ed3ed3ed3,
  0xf2bf2bf28f28f28f27f26ed3ed3ee8f19f19f19f19f19f19f19f19f19f19f14f0ff0ff0ff14f13f0ff11f0f,
  0xf43f43f43f43f43f43f43f41f41f3cf34f33f33f33f33f33f33f33f33f33f33f33f33f31f31f26f2bf2bf2b,
  0xf60f60f60f60f60f60f60f5ff5bf5af5af5af5af59f3cf52f52f52f52f52f52f51f43f43f43f43f43f43f43,
  0xf7ef81f81f7ef7ff7eef1f41f78f78f78f78f77eeff72f72f72f72f71f5bf6ff69f69f69f69f69f69f0ff67,
  0xfa0f9ef9ef9df9cf7df97f97f97f97f96f87f8ef93f8ef8ef8ef8ef8ef8df87f86f86f86f86f86f86f7ef84,
  0xfb9fb9fb9fb9fb9fb8f86f27fb4fb4f86fb2fb1facfadfaefadfacf9df9dfa1fa1fa1fa1fa1fa1fa1fa1fa1,
  0x88fd2fcffcffcffb9fb9fb9fb9fb9fb9fb9fb9fb9fb9fb9fb9fb9fb9fb9fb9fb9]⟩

/-- Where the overrides of each row of actions begin. -/
def actionFirst : Packed := ⟨4054, 13, 27, #[
  0x6c03401900c005c02c01500a004c024011008003c01c00d006002c014009004001c00c0050020008000000,
  0xd806a03401980c806203001780b805a02c01580a8052028013809804a024011808804202000f807803a01c,
  0x1440a004f027013409804b02501240900470230114088043021010408003f01f00f407803b01d00e4070037,
  0x1b00d606a03481a00ce06603281900c606203081800be05e02e81700b605a02c81600ae05602a81500a6052,
  0x21c10c085042020c10408104001fc0fc07d03e01ec0f407903c01dc0ec07503a01cc0e407103801bc0dc06d,
  0x28c1440a1050027c13c09d04e026c13409904c025c12c09504a024c124090047823811a08c0458228112088,
  0x2f817a0bc05d82e81720b805b82d816a0b405982c81620b005782b815a0ac05582a81520a8053829814a0a4,
  0x3641b00d706b03541a80d306903441a00cf06703341980cb06503241900c706303141880c306103041800bf,
  0x3d01e60f207883c01de0ee07683b01d60ea07483a01ce0e607283901c60e207083801be0de06e83701b60da,
  0x43c21c10d086042c214109084041c20c105082040c20410108003fc1fc0fd07e03ec1f40f907c03dc1ec0f5,
  0x4a8252128093849824a124091848824212008f847823a11c08d846823211808b845822a1140898448222110,
  0x5142881430a1050428013f09f04f427813b09d04e427013709b04d426813309904c426012f09704b425812b,
  0x5802be15e0ae85702b615a0ac85602ae1560aa85502a61520a8854029e14e0a6853029614a0a4852028e146,
  0x5ec2f41790bc05dc2ec1750ba05cc2e41710b805bc2dc16d0b605ac2d41690b4059c2cc1650b2058c2c4161,
  0x65832a1940c986483221900c7863831a18c0c586283121880c3861830a1840c186083021800bf85f82fa17c,
  0x6c43601af0d706b43581ab0d506a43501a70d306943481a30d1068434019f0cf067433819b0cd0664330197,
  0x7303961ca0e4872038e1c60e287103861c20e0870037e1be0de86f03761ba0dc86e036e1b60da86d03661b2,
  0x79c3cc1e50f2078c3c41e10f0077c3bc1dd0ee076c3b41d90ec075c3ac1d50ea074c3a41d10e8073c39c1cd,
  0x8084022000ff87f83fa1fc0fd87e83f21f80fb87d83ea1f40f987c83e21f00f787b83da1ec0f587a83d21e8,
  0x87443821b10d086443021710b0854428213109084442020f107083441820b10508244102071030814408203,
  0x8e046e23611a88d046623211888c045e22e11688b045622a11488a044e2261128890446222110888043e21e,
  0x94c4a4251128093c49c24d126092c494249124091c48c245122090c48424112008fc47c23d11e08ec474239,
  0x9b84da26c13589a84d226813389984ca26413189884c226012f89784ba25c12d89684b225812b89584aa254,
  0xa245102871430a145082831410a0450027f13f09f44f827b13d09e44f027713b09d44e827313909c44e026f,
  0xa905462a21508a8053e29e14e8a7053629a14c8a6052e29614a8a505262921488a4051e28e1468a3051628a,
  0xafc57c2bd15e0aec5742b915c0adc56c2b515a0acc5642b11580abc55c2ad1560aac5542a91540a9c54c2a5,
  0xb685b22d816b8b585aa2d41698b485a22d01678b3859a2cc1658b285922c81638b1858a2c41618b085822c0,
  0xbd45e82f31790bc45e02ef1770bb45d82eb1750ba45d02e71730b945c82e31710b845c02df16f0b745b82db,
  0xc4061e30e1868c3061630a1848c2060e3061828c106063021808c005fe2fe17e8bf05f62fa17c8be05ee2f6,
  0xcac6543291940c9c64c3251920c8c6443211900c7c63c31d18e0c6c63431918c0c5c62c31518a0c4c624311,
  0xd1868a3441a18d0868234019f8cf867a33c19d8ce867233819b8cd866a3341998cc86623301978cb865a32c,
  0xd846c035f1af0d746b835b1ad0d646b03571ab0d546a83531a90d446a034f1a70d3469834b1a50d24690347,
  0xdf06f637a1bc8de06ee3761ba8dd06e63721b88dc06de36e1b68db06d636a1b48da06ce3661b28d906c6362,
  0xe5c72c3951ca0e4c7243911c80e3c71c38d1c60e2c7143891c40e1c70c3851c20e0c7043811c00dfc6fc37d,
  0xec87623b01d78eb875a3ac1d58ea87523a81d38e9874a3a41d18e887423a01cf8e7873a39c1cd8e68732398,
  0xf347983cb1e50f247903c71e30f147883c31e10f047803bf1df0ef47783bb1dd0ee47703b71db0ed47683b3,
  0xfa07ce3e61f28f907c63e21f08f807be3de1ee8f707b63da1ec8f607ae3d61ea8f507a63d21e88f4079e3ce,
  0x100c8044012000ffc7fc3fd1fe0fec7f43f91fc0fdc7ec3f51fa0fcc7e43f11f80fbc7dc3ed1f60fac7d43e9,
  0x107883a41c20d906883241820b905882a4142099048822410207903881a40c2059028812408203901880a404,
  0x10e487043721b10d486843321910c486042f21710b485842b21510a48504272131094848423211108484041f,
  0x11508a6452228914089e44e226913089644a224912088e4462229110886442220910087e43e21e90f087643a,
  0x11bc8dc46d23611ac8d4469234119c8cc465232118c8c4461230117c8bc45d22e116c8b445922c115c8ac455,
  0x127493849a24c1258928492248123891a48b245122090e485242120890247f23e91f08f447823b11d08e4470,
  0x132498e4c6262130c9824c025f92f49784bb25c92dc96a4b425912c49604ae25612a89504a6252128c94249f,
  0x13949c84e327113849c04df26f13749b84db26d13649b04d726b13549a84d326913449a04cf26713349984ca,
  0x14009fe4fe27e93f09f64fa27c93e09ee4f627a93d09e64f227893c09de4ee27693b09d64ea27493a09ce4e6,
  0x1478a3851b28c945ca2c51528a144ca24511288143ca1c50d286142ca14509284141ca0c505282140ca04501,
  0x1540a9c54c2a51524a8e5452a19504a7e53d29d94e8a7053629a14c8a6052e29694aca525282931490a44520,
  0x1610b045812bf95f4af65792bc15d8ae85722b815b8ad856a2b41598ac85622b01578ab855a2ac1558aa8552,
  0x16d4b665b22d896bcb5a5ab2d516a0b4c5a42d11680b3c59d2cd9664b2e5952c99644b1e58d2c59624b10586,
  0x179cbca5e32f0977cbbc5dc2ed1764bae5d52e99744b9e5cd2e59724b8e5c62e21708b825bf2de96ecb725b7,
  0x1868c3061630a984cc226103079834c166093039814c066012ff97f4bf65f92fb97d4be65f12f797b4bd65e9,
  0x18ecc7463931c18dcc6c63531a18ccc6463131818bcc5c62d31598a8c526273131894c46622310987cc3c61c,
  0x1968cb065732b1954ca86523289940c9c64d326192cc94649324191cc8c645322190cc8464132018fcc7c63d,
  0x19fccfc67c33d99e8cf267833b99d4ce867233899c0cde66e33699b0cd666a334999ccca663330997ccba65c,
  0x1aa8d506a63529a8cd426a034f1a70d3669934c1a58d2a6933489a40d1c68c3459a28d126883431a10d04681,
  0x1b50da66d23689b40d9e6ce3669b2cd926c83631b10d866c13601af8d786ba35c1adcd6a6b33589abcd5a6ab,
  0x1bc0dde6ee3769bb0dd66ea3749ba0dce6e63721b8cdc46e13701b7cdbc6dd36e1b6cdb46d936c1b5cdac6d5,
  0x1c8ce4271f38e9c6ce3271738a9c4ce2270f3869c2ce127073829c0ce026ff37e9becdf26f737b1bd0de66f1,
  0x1d60eae7553a99d44e9e74d3a59d24e8e7453a19d04e7e73d39d9ce4e6e7353999cc4e5e72d3959ca4e4e725,
  0x1dd4ee87733b91dc4ee076f3b69daced47693b41d9cecc7653b21d8cec47613b01d7cebc75d3ae1d6ceb4759,
  0x1e40f1e78e3c69e30f1678a3c49e20f0e7863c29e10f067823c09e00efe77e3be9df0ef677a3bc9de0eee776,
  0x1eacf547a93d41e9cf4c7a53d21e8cf447a13d01e7cf3c79d3ce1e6cf347993cc1e5cf2c7953ca1e4cf24791,
  0x1f4cfa27cf3e69f2cf927c73e29f0cf827c03df1ef0f767b93db9ed8f6a7b43d99ec8f627b03d79eb8f5a7ac,
  0x1fbcfdc7ed3f61facfd47e93f41f9cfcc7e53f21f8cfc47e13f01f7cfbc7dd3ee1f6cfb47d93ec1f5cfac7d5,
  0x2059028812408203901880b404a01d00a8034012000ffe7fe3fe9fecff27f83fb9fd8fea7f43f99fc8fe27f0,
  0x210507e83d41da0e907283841ba0d906a834419a0c906283041720b1054828413209104482040f2071034818,
  0x21950c6862430217d0ba85b42d21650b085742b21550a885342921450a084e426212d094849423a115086842,
  0x221d10c885442220d10488144021fd0fc87d43e21ed0f487943c21d90ea87343921c10de86d43621a90d0867,
  0x229914a8a4451a2891428a044fa27913a89c44da26913289844ba259128892448223d11c88d446222d114889,
  0x23051808bf45f22f51788bb45d22e51708b745b22d51688b345922c51608af45722b51588ab45522a51508a7,
  0x23711b68da46ca3611ae8d646aa3511a68d2468a34119e8ce466a3311968ca464a32118e8c6462a3111868c2,
  0x24011fc8fc47da3e51ee8f547a23c91e28ef47723b11d68e9474239d1cc8e5472238d1c48e1470237d1bc8dd,
  0x24ad254929494249d24c925492248d24492048fa47523891a48c2459228912488243921890a4842419208902,
  0x251928a9444a1a50928294049fa4f927a93c49da4e927293849ba4d926a934499a4c9262930497a4b925a92c,
  0x25a52ce9654b1a5852c095f4af25752b695a4aca5612ae9554a9a5492a29504a7a53929a94c4a5a525290947,
  0x26293129884c3a61930a9834c0a6012fe97e4be25ed2f49794bc25dd2ea9734b925c12de96e4b6a5b12d696a,
  0x26953489a34d1268534099f4cf267533899b4cd26653309974cb26553289934c9264532098f4c7263531898b,
  0x270137e9be4dea6f13769ba4dca6e136e9b64daa6d13669b24d8a6c135e9ae4d6a6b13569aa4d4a6a134e9a6,
  0x276d3b49d94ec275d3ac9d54ea274d3a49d14e8273d39c9cd4e6272d3949c94e4271d38c9c54e2270d3849c1,
  0x27d93ea9f44f9a7c93e29f04f7a7b93da9ec4f5a7a93d29e84f3a7993ca9e44f1a7893c29e04efa7793ba9dc,
  0x2859428a135092845420a0f5072835418a0b5052825410a07502a80d402a004ffa7f93fa9fc4fda7e53f09f7,
  0x2919488a4252028f9478a3a51c28d9468a3251828b9458a2a514289944aa24511a88543ea1e50ea871434a18,
  0x29e94f0a7653aa9d14e4a7053729b14d4a6853329914c4a6052f29714b4a5852b29514a4a505272931494a48,
  0x2ab5556aa9553aa95548aa25502a79538a9a54c2a59528a93548aa3d51aa8b544aa1d50aa83540a9fd4fca7c,
  0x2b895c0ade56e2b695b0ad656a2b495a0ace5662b29590ac6562ab0d582abf55eaaed572ab755aaacd562aaf,
  0x2c2d614b095842c1d60ab045812c05600aff57eabf15f6afa57cabdd5eaaf3578abbd5daaeb574ab9d5ccae4,
  0x2cc9660b2f5972cb5658b2a594aca164eb265922c8d642b1f58f2c71636b1a58c2c5d62ab145892c4161cb0d,
  0x2d516a2b4f5a6ad31696b4a5a4ad2168cb455a22d0d684b4159facf967ab3c59dace5670b3759b2cd5668b33,
  0x2e29712b865c22e096feb7c5bcadd96e6b715b7adb56d6b685b3ad996cab645b1ad896c2b605afad716b2b56,
  0x2f0577cbbb5dc2ed5764bb05d72ead752ba75d22e89740b9e5cdae6572eb955c92e45720b8f5c72e35718b8b,
  0x3009800bfd5fd2fe17eabf45f9afc97e2bf05f7afb17d2be65f1af897bebdc5ecaf597a6bd05e6af2978ebc4,
  0x30d986ac34619b0c9862c30617b0b985ac2a613b095846c2160f306d832c1760ab04d822c0e605b02580ec05,
  0x31458a0c4f6273135898c4b6253125890c476233115888c436213105880c3f61f30f5878c3b61d30e5870c37,
  0x31fd8fcc7d63e31ed8f4c7963c31dd8ecc7563a31cd8e4c7163731ad8d0c65631317d8bac5b62cb15d8aac53,
  0x32ad954ca9654329d948ca164fb275936c9964c3255928c936493245920c8f6473235914c88642b209902c80,
  0x33719b6cd866b33519a4cd06673331992cc7662b30d982cbf65eb2e9970cb765b32d5968cb2658b2c195ecac,
  0x3431a14d096843415a06d0167f33f19f4cf767ab3cd9e2cef676b3ad9d2ce6672b3919c6ce2670b3819becdd,
  0x34d1a64d3169834b5a54d29694349da4cd25692348da42d2068fb471a34d1868b344da24d11688343da1cd0d,
  0x3565ab0d576ab3551aa6d526a7b531a96d4a6a4b521a8ed466a2b50da84d4169f34eda74d3969c34dda6cd35,
  0x35f9afad7c6bdb5e9af2d786bb35d5ae8d716b735b5ad8d6b6b535a5ad0d676b2b591ac6d606aeb571ab6d5a,
  0x369db48da16d0367db3cd9d6ce366db34d986cbb659b26d906c7b639b1ad8c6c5b629b12d876c33615b04d7f,
  0x3729b92dc76e33715b88dc36e136fdb7adbc6dd36ddb6adb46d9b6c9b62db06d7b6b9b5adac6d5b6a9b52da8,
  0x37a9bd2de86f3b799bcade46f1b789bc2de06efb779bbaddc6edb769bb2dd66eab751ba4dd16e8373db9cdcd,
  0x3815c08e037013805c00dff6ff37f5bf8dfb6fd37e5bf0df76fb37d5be8df36f937c5be0def6f737b5bd8deb,
  0x3881c3ee1e70eb871c36e1a70cb861c2ee1670ab851c26e12708b841c1ee0e706b831c16e0a704b821c0ee06,
  0x390dc82e3f71eb8edc72e3771ab8cdc64e3171838bdc5ce2d71638adc54e29714389dc4ce25712388dc44e21,
  0x39b5cd8e6b73539a5cd0e677333991cc6e62730b981cbee5d72db965caee55729b945c9ee4d725b925c8ee45,
  0x3a41d1ee8d7463a29d10e87742ba0dd04e8173fb9f9cfae7b73d39e5cf0e7773b39d5ce6e72738b9c1cdee6e,
  0x3ae5d70eb775b3ad5d68eb17583abdd5cead7563aa9d52ea8753ba99d48ea174fba75d36e9974bba55d28e92,
  0x3b51da6ed2768bb41d9eece766bb31d96eca764bb21d8eec6762bb11d86ec2760bb01d7eebe75ebaf1d76eba,
  0x3c19e0af04781bc01dfcefc77d3be1decef47793bc1ddceec7753ba1dccee47713b81dbcedc76d3b61daced5,
  0x3cade52f28793bc91e44f1f78ebc71e36f1978b3c55e28f137893c45e20f0f7873c35e18f0b7853c25e10f07,
  0x3d69eb2f567aa3d49ea0f4e7a6bd31e96f4a7a43d15e86f427a0bd01e7ef3e79ebcf1e72f3679abcc9e5ef2e,
  0x3e29f12f877c23e09f00f7e7be3de9ef0f767babdd1ee6f727b8bdc1edcf6b7b53d9deccf637b03d7debcf5b,
  0x3f0df82fc07dfbef9f78fb87dabec9f5efac7d4be99f46fa07cebe6df32f977cabe4df22f8f7c73e35f18f8b,
  0x3f9dfcafe47f1bf89fc2fe07efbf79fbafdc7edbf69fb2fd77eabf51fa4fd07e7bf35f96fca7e4bf21f8cfc4,
  0x405a027011807c03a017009803c01a00b0048014001ffeffd7fdbfe5ff0ff67fa3fcdfe2fef7f6bfb1fd4fe9,
  0x40ea07303881b40d606703181840ba05b02b814c09e04d024811c08a04302080fc07a03b01c80dc06a033018,
  0x41d20e306e835c1aa0cf066832c1920c305e82ec16a0af056829c14209d04b825411e08d04382040fa07b03b,
  0x432218d0c4861c2fe1770b7859c2be1570a7851c28213b09a84bc25612508f846422210b08283fc1f60f5077,
  0x4426211107883441620910388144021f70fa87b43ca1dd0ea873c39a1cb0e186ec36e1b10d5869c34a19d0cc,
  0x451628113f89dc4ea26f13689ac4d226112f895c4aa24d123891447a23711888ac45222110e886c43221710a,
  0x45be2dd16b8b545a62d11678b345962c91638b145862c115f8af45762b11578a9c54a2a31508a7c52e295147,
  0x46b23531a78d2c68a33f19d8cd465e32918f8c546263111838c146062ff17e8bec5ea2f31788bac5d22e7170,
  0x48124052008fdc7de3eb1f18f6c7ae3d31e58f1c77e3bb1db8eb474e3a11cb8e347163811bb8dc46d63651af,
  0x494a499247920c90247f23991a48be45d22d91648ae455228913c89a44b224911487a439217909c83e415205,
  0x49ce4e527193849be4db26c935c9aa4d126793349924c526192fc9764b925b92d49664b125792b49564a9253,
  0x4a6252f29594a4a4e523290947ca3651928b9454a265112879434a1650928394149f24f527993c49de4ed274,
  0x4b0a5832c095fcafa57b2bc95dcaea5732b89594abe55d2ad9564aae5552a99544a9e54d2a59524a7a53929a,
  0x4b825bf2de96ecb725b72da96ccb625af2d696acb525a72d29684b3e59d2cd9664b2e5952c8963cb1a58b2c3,
  0x4c3e61d30d9864c2e6153049814bfe5f32f797b4bd65e92f39794bc65e12ef9774bb65d92e6972cb925c72e1,
  0x4cce6653319984cba65b32c995ccaa653328993cc9a64b324991cc7663731998c4c5e62b314989cc4a623310,
  0x4d666b13579ab4d566a93539a6cd326953499a44d1e68d3459a24d0e6853419a04cfe67333899bccda66b334,
  0x4ec27513a09cc4e3e70937d9bbcdce6e53719b84dbe6dd36d9b64dae6d53699b44d9e6c335e9aecd726b735a,
  0x504e825411a08503e81d40da06502e815409a044fea7f13f69fa4fca7e33f09f7cfba7d93df9ea4f2e7813b8,
  0x52068e5469a32d1928c745aa2cd16289d44da21d10a86b426a12508a84141ea0e506a833418a0bd05a82b414,
  0x53ce9e54f0a6dd3269914c7a6353169874c1a5cd2da96b4a6a52528293f49ea4ad25292748ea46d22690b484,
  0x548aa3f51ca8cd45aa27511a885436a15506a81d40aa03500a7fd3fa9fb4fca7dd3ea9f34f8a7bd3da9eb4f4,
  0x55d2ac355eaad5546a99549aa3d516a87541a9fd4faa7b53ca9dd4eaa73538a9bd4daa6b533a97d4aea51525,
  0x57d6be95f3af957c6bdf5eeaf6d7b2bd75eaaf4d7a2ba15cdae4d6dab675b2ad7566eb2d593ac7d5f2af3578,
  0x58e2c6562cb135882c35618b0b584ec2360fb06d82ec13607b02d80ec035ffafed7f2bf75faafcd7e2bef5f6,
  0x5a9ad496a3b50da82d33691b44da22d0f684b41d9eecf1670b36d9b2cd7669b33d996cbb656b28592ac8963e,
  0x5bbaddb6ecb75dba6dd16e7b72db7ada56c7b5f5aeed756b9b5c5aded6d6b5b5a5aced656afb56daaed536a7,
  0x5cbee5d72db965caee55729b93dc96e3370eb865c2ae11706b825c0ae03700b7fdbfadfb6fcb7d5be2de16ef,
  0x5da2ecd764bb1dd8aec1754ba95d46ea174fba6dd06e8173fb9f5cf6e7973bb9cdcdee6b734b99dccae63730,
  0x5f8efc37cfbe0defef7d7bdbde5eeaf5b7abbd4dea2f4f7a5bcc5e56f29793bc95e46f2178fbc15df6ee576d,
  0x61570a7852c28e13f085835c18e093045820c0fe07b039810c07603301780ac04e022ff77f2bf55fa6fd17e4,
  0x65fb2d9953ca86517265920c87e3f71dd8d8c6363131878c2c60e30317f8bec5ee2f315589bc48e2030e1857,
  0x68374199f6cfa67cf3e59f1cf867bf3dd9edcf667af3d59e9cf4679f3cd9e5cf2678f3c59e1cf0673f35f994,
  0xd2f68b743da0e]⟩

/-- The set of tokens that an override concerns. -/
def actionColumns : Packed := ⟨6750, 10, 35, #[
  0xb02c0a00c09024090240800c0801c0701c0701c060180501004008020080200c0200802008020040200400,
  0xd0340d0340d0340d0340d0340e0340d0340d0340d0340d0340d0340d0340d0340d0340d0140d0340c0300b,
  0xd0340d0340d0340d0340f00c0d0340d0340d0340d0340d0340d0340300c0f00c0d0340d0340d0340d0340d,
  0x1104410014050140d0340d0340d0340d0340d0340f00c0d0340d0340d0340d0340d0340d0340d00c0303c03,
  0x1d0741d0701c06c1b06c1a068190601805c1705c1705c1705c160581605415054120501404c120401104411,
  0x1f07c1f07c1f07c1f0982507c1f0901f07c1f07c1f08c200881f0841f07c2007c1f07c1f07c1f0741e0741e,
  0x1f07c1f07c1f07c1f07c1f07c1f07c1f07c1f07c1f07c1f07c1f07c1f07c1f07c1f07c1f07c1f07c1f07c1f,
  0x2308c2308c2308c2308c2308c2308c2308c2308c2308c2308c2308c230a4230a02708c1f07c1f07c1f07c1f,
  0x2b0ac2b0ac2b0ac2b0ac2b0ac2308c2300c2308c230a82a08c2308c2308c2308c2308c2308c2308c2308c23,
  0x330c8310c4310c4310c431084310c4310c4300c02f0bc2e0b82e0b82e0b82d0b42d0b02c0ac2b0ac2b0ac2b,
  0x350d0340d0340d0340d0340d0340d0340d0340d0340c4310c4310c4310c4310c4310c4310c4310c4310c431,
  0x3b0e83a0e8390e4380e0370dc370dc370dc370dc370dc370dc370dc370dc350d4350d8360d8360d8360d435,
  0x3b0ec3b0ec3b0ec3b0ec3b0ec3b0ec3b0ec3b0ec3b0f43c0ec3b0ec3b0ec3b0ec200883b0843b0ec200ec3b,
  0x4210842080221082110842108421082010841104401003e0f83f0fc3f0fc3f0fc3e0f83e0f83b0ec3b0ec3b,
  0x421084210842108421084210842108451084210842108451084210842108421084211442110431084210842,
  0x4310c4d10c4f13c4f1384e1384e1384c1304c1304d1304b12c4b12c490504a12448120481204711c4711846,
  0x5816058160581605816058160140505704c511505415856158550885414c501405114422148511405010c43,
  0x581601318458160581604d16013160581805f16c5e1745c16c5a1685a164591640316459164131605816058,
  0x5816058160581885804c1304c581605804c13160581605804c1316058160581605804c13160581605804c13,
  0x5818c5818c58160581605816058160581605818c5818c581605816058160581605818c58160581605816058,
  0x661986619866160131944d19413050141641304c131905816058160581605818c5816058160581605816058,
  0x13194651946e1b44d04c6c1b06c1a86a1a86a1a86a1a86a1ac631a8690a06309c681a0681a0681a0681a067,
  0x4d1344d134131347104c13050141c0131bc6f1bc6f1bc6f1bc6f1bc6f1bc6f1bc6f04c140505804c1304c13,
  0x751d4751d4751d4751cc2008875084751d4201d4751d4741d0270a0731c8721c8721c8521c8521c8721c823,
  0x751d4751d4751d4751d4751d4751d4751d4751d4751d4751d4731e0751d4751d4751d4751d4751d4751dc76,
  0x731cc731cc731cc731cc731cc730a4731d4751d4751d4751d4751d4751d4751d4751d4751d4751d4731d475,
  0x2709c7a1ec690a0631e8791cc731cc731cc731cc731cc731cc731cc731cc731cc731cc731cc731cc731cc73,
  0x7f1fc7f1fc7e09c7d1f07c1f07c1f07c1f07c1f07c1a4691a4691a4691a4691a46909c2709c2709c2709c27,
  0x611848218455184611848218461208812046f00c80200802000300c7f00c7f1fc7f1fc7f1fc7f1fc7f1fc7f,
  0x8320c8320c8320c8320c6118461184611846118461184611846118461184611846118461184611846120861,
  0x282202721c2007c750ec860804209c2709c2709c2709c690a08509c831f87e20c8320c8320c8320c8320c84,
  0x690a08e09c2709c690a08d09c8c09c690a08b09c8a0804d09c2709c271a4282242709c2709c2709c2709c69,
  0xd03c030348325c0f00c0d2589500c9400c0824c0d00c9209c690a09109c271a4282402709c690a08f09c27,
  0xa209c7c28ca2284a0284a01344d27c9e2749e2749c26c9a26452260522600f00c0d03c030340f00c0d03c03,
  0xaf2b820050ad09c0308c281a4ac09c7c1a4ab2a0aa2a4aa2a44d134a81f0692882729ca629ca6294a4294a4,
  0xb52d4b52d8b62d8b62d4b62d4b62d8b62d8b62d4b62d4b52d8b508864190142d0222ccb22c4b02c0642c0af,
  0x6419014088782e4b82e064190b62d8b62d8b62d8b62d8b62d8b62d8b62d8b62dc642d8b62d8b62d8b6190b5,
  0x523082730414050be148232fcc02fc142f8142f8142f4142ec142ecbc050bb050ba19064190641906405022,
  0x632accd19c63330cb330cb328c9080143201431c2231822314033101430c1430cbc050c3148c209cc109cc1,
  0xc03485230814340223441434052308523084d1cc4d1cc4d1cc52308cf09c5230822338ab3346718cab33467,
  0x52308db368d9360ca2142235c523089e354d609c9e3549e278d42ccd400ccb05014340cc32cc234c521ccd2,
  0xaa388e13288d37c2713427380df228de374dc36cda36cda00cdb368db368db368db368db368db3680336cda,
  0xed09caa29c89294ec148eb220ca238ea3a452308223a0e120ce7154e120ce7154a1398e5148e409ce32a8e3,
  0xf33ac633ac633ac633ac633ac633c8533ac6338caa38caa088f138caa088f0088ef3b8df3848339c5539c55,
  0x5d174d609c5d174d63e80300c8000cf932891088f82a8a4240f7154f63d8013d8f53d0f53d0f53d0dc37ce2,
  0x5d1749f27c9f27c9f27c9f27c9f27c5d27c551745d1745d1749f27c9f27c9f27c9f27c5d27c551745d3dcd6,
  0x280a0280a0010a0140c414218202d8143f8223f8143f4fc2685c3ecfb3ecfb004fb1745d27c551745d1745d,
  0xb6160b616058160581604d1610240452400ff300ff080140ecd627c9f27c9f0886421820218280a0280a028,
  0x1422814109084042041c14419051490440cc040c210f020050420503b2d8b6160b62d8582d8b6160b6134b6,
  0x4d1846118461184611850e18427434b5134b61350d2d48a0810c0801421c2242c1421c52429093010908443,
  0x10f1850e00c7d4387d09c611846118461184611846419061088641844d1844d1844d1844d184611346113461,
  0x10e43c612d90e2d90e2d90e2d90e2d90e2d90e2d90e2d90e2d90e2d90e2d90e43c612d90e2d90e2d90e43c61,
  0x10f184b6438b6438b6438b6438b6438b6438b6438b6438b6438b6438b6438b6438b6438b6438b6438b6438b6,
  0x1304cb52d4b52d4b52d4b52d4221c4522d90e2d90e2d90e2d90e2d90e2d90e2d90e2d90e2d90e2d90e2d90e,
  0xb52d4b5448b52d4132d4b52d4b52d4b52d5112d4b5440b52d4b51e0242d50d2d41304c1304cb52d4b504c13,
  0xb52d4b52d4b52d4b52d4b52d4b52d4b52d4b52d4b52d4b52d4b52d4b52d4b52d4b52d4b52d4b52d4b52d4b5,
  0x10d2d50d2d50d2d50d2d50d2d4870804e434b519022441132d4b52d4b5448b52d4b52d4b52d4b52d4b52d4b5,
  0x6e1b86e1b86e1b86e1b86e1b86e1b86e1b86e1b9144511415514451162d06e0506e454612d91445027434b5,
  0x61454614546145cc045d15185151851518454050511445108855145151846e1b86e1b86e1b86e1b8b41b86e,
  0xa82a07d468a8468642d51915519154524611518515185151851518515185151851518515185151851518515,
  0x691a4691a4691a4691a41300cf9050b52d4144811f09d1e474690a06b18d1c09cbc46ca82a0a82a0a82a0a8,
  0x8320c834946300d2418c034906300d2418c03490642d41448d222aca8184ab2a02127d2100cf91a4691a469,
  0x691a4694a0694a0691a45e04d0d20c5520c8320c8320c8320c83155254952549525495251552549d2620c83,
  0x691a4691a4691a4691a4691a4691a4691a4691a4691a4691a4691a4691a4691a4691a4691a4691a4691a469,
  0x691a4691a4691a4691a4691a4691a4691a4691a4691a4691a4691a4691a4691a4691a4691a4691a4691a469,
  0x554a47d09d304bc014b8554b49f27c553592c20c554a92b4a92a4a8274a4554a514450271a4691a4691a469,
  0xd63589f27c9f27c9f27d3409d3309c270882720cb520cb54c8644c42719054190421903b27c5527c5535827,
  0x9f27d35358d6358d6358d6358d6358d6358d6358d6358d6358d6154d6358d635855358d609cd63585535855,
  0xdf37cdf37c5509cdf09c6e154d6498d64989f1549f1549f154e2388e2389362d46e1549f27c9f27c9f27c9f,
  0xf53d4f53d4f53d4f53d4f53d4f53d4553d4551b8553d4f53d4f5154f509cf509cf53d455149384dcc04dc55,
  0xf53d4f53d4f53d4f53d4f53d4f53d4f53d4f53d4f53d4f53d4553d4f53d4f53d4f53d4f53d4f53d4f53d4f5,
  0xf53d4f53d4f53d4f53d4f5154f53d4f53d4f53d4f53d4f53d4f53d4f53d4f53d4f53d4f53d4f5154f53d4f5,
  0x554e4f53d4f53d4f53d4f53d4f53d4f53d4f53d4f53d4f53d4f53d4553d4f53d4f53d4f53d4f53d4f53d4f5,
  0xb52d53a2d5254989f154d64986e1b86e1b86e1b86e1b86e1b86e1b86e1b85538855388554a8554a92a4a92a,
  0x551b855388551b8551b8551b85527c5527c5527c554c00100d3c27c553d4551541320c83050834ec9f154b5,
  0x2110c1410814190f5154e2154f5154e21546e154210f0140ec141906e1549f1549f1549f154f5154554e4e2,
  0x33e4033e50d2d4033e4214f8b54f8b5434b5134a81a4283d4633d0271b8552593d4c864388553d45538855,
  0xf900cf900cf90853e2d53e2d44d2a0033e53e2d53e2d53e2d53e2d4214f8b500cf900cf94f8b54f8b54f8b5,
  0xb54f8b54f8b54f8b50853e2d53e2d53e2d53e2d53e2d53e2d53e2d53e2d53e2d4033e53e2d53e2d53e2d403,
  0xb54f8b54f8b54f8b54f8b50853e2d53e2d53e2d53e2d53e2d53e2d53e2d53e2d53e2d53e2d53e2d53e2d53e,
  0x1420054126d4026c9c26d4026d4026c9c26c9b2689b26c9b26c0126d3f4fd3f4fd3f0050d2d50d2d53e2d53e,
  0x14952549524015254852148521480054751d4751d47005465180100545511440052649801499430054350801,
  0x14d05021530da00c2703c010854b004f93e4f93e4f9004f90501405014050010514a5294a5294a0054952549,
  0xe23dcd60886455d4d0502155955551535495100ccb534141e150541505415054150541501494f300221914e,
  0x11f1b8dc568b637ce037c6e47c6e3715a565595655956559565595645253cc01b91f1b9581491e1b8e23dcd6,
  0x15f578a85755e2a15d578a8574e4364d82f15c46ce037cdc37c9e354d40886456d55534142ccb637ce037c6e,
  0x14108bc534141094d0503b534140ed4d05031534143f94d050fe534143f814190fb00cf9584525815f14960,
  0x10e2d90e2d90e184b6190b6438612d90e184b6190b64386158962589625896259163588b643861534141094d,
  0x1652d90e184b6438b6438b6438b6438612d90e184b6438b6438b6438b6438b6438b6438612d90e184b6438b6,
  0xf51b84d3d46e134f51b84d3d46e3d4f53d4f53d44d3d4f53d46e4a8df59d66405655956559565595651494f,
  0x5253d695341421d4d050875341421cb613568534140ece2154e2154e2154e2154e21545504ce21544d1344d,
  0x16a5a96a5a96a5a96a1494f5a8b6438b643861534141088320c8320c8320c58160580f1695a5695a5695a569,
  0x1405014050640501405022534142d4b52d56f5bc2104cb55b96d5b16b2d56b2d56b2d56b2d4b55ad122d443,
  0x1775d8222ac2214c225cc225c822450225c57508974088ab0885308973089720891408971088215c02205014,
  0x183088d608821608222ac2214c225cc225c822450225c42260580439265fd7e53d7d3017c5ec225e9795e022,
  0x1780897761c2260c223582261980439265fd7e53d7d3017c5ec225e9795e0225dd8508983088d65d42261022,
  0x1795e0225dd8b089776297f5f94f5f4c05f17b0897a5e57808977624225dd885fd7e53d7d3017c5ec225e979,
  0x17a5e57808977638225dcd65fd7e53d7d3017c5ec225e9795e0225dd8d089776317f5f94f5f4c05f17b0897a,
  0x225e9795e0225dd90089775c97f5f94f5f4c05f17b0897a5e5780897763c225dd715fd7e53d7d3017c5ec22,
  0x19364d9364d931494f64c225dd735fd7e53d7d3017c5ec225e9795e0225dd92089776457f5f94f5f4c05f17b,
  0x1990519865cb50a4294bc290a4290a429659950a429650290a59465429650b637cb62d8b62d8b62d8b664d93,
  0x19b66d9b66d9b66d9b66d9b66d9c66d9b1a52866d9b27c9f27c9f27c9f27c9f66c21668142d59865cb566599,
  0x19b66d9b66d9b66d9b66d9b66d9b66d9b66d9b66d9b66d9b66d9b66d9b66d9b66d9b66d9b66d9b66d9d66d9b,
  0x10d6790d6790d66d9b66d9b66d9b66d9b66d9b66d9b66d9b66d9b66d9b66d9b66d9b66d9b66d9b66d9b66d9b,
  0x11a3599e4359e4359e4359e4359e4359e4359e4359e4359e4359e4359e4359e4359e4359e4359e4359e4359e,
  0x1a1358273589f27c9f27c9f6814b358d627c9f27c9f27c9f27c9f27c9f67d9e4349f27c9f27c9f27c5535827,
  0x19e4359e4354b4a14b4a19b27d9b27da5691a36790d67d9e4359f6790d6814b67d9e4349f155a26849f155a2,
  0x19b66d9b66da766d9b66d9b52d9b66d4b66da666d9b0859a3589f27c9f27d9e4349f27c9f27c9f1559b35827,
  0x19b2719b52d9b2719b52d9b270bc681a7271a7681a766d9b66d9b66d9b52d9b66d9b66d9b66d9b66d9b66d9b,
  0x1485214852148521485914858d4b66d4b66d4b66d4b66d4b66d4b66d4b66d4b66d4b66d4b66d4b66c9c66d4b,
  0x9f6a49f1549f27daa4e9a9359264e9a92d49f1549f27da86659865d99521485214852148521485214852148,
  0x1960a4290a4290a5960a596654293d5266b1ac6b1ac6b1ac6b05253dac6ac9f6a4b5084132d5950a59427dab,
  0x19765d976b997005ae65c136b4033e4136b4033e5966542904c136b4033e41304dad00cf9658296582965829,
  0x1986bd986bd986bd986619866198661986bd98005af661ae65dae65dae65dae65dae65dae65dae65d9765d97,
  0x1b04f8212d53e084b54f8212d53e084b54f8212d53e084b54f8212d53e084b54f8212d5af661af661af661af,
  0x271347a1a48338caa09c6918452308271a58338caa1344d2d44d27c52308271a4d609cb52d4216c4281a427,
  0x69134e32a852308271a453148c209c691ad1e28452308271a5736c9b36c87a09c2709c2709c2709c2709c27,
  0x2709c2709c2709c2709c7a1ec7a09d9865cb54791d6d5b46c8691ac272aca838caa1344d09c693d4e32a827,
  0x132d59865cb52aca809c692ac4d134271a4f509c691346920c271a45309c691ac696dc696d8271a57309c27,
  0x276e9b8134f515427084132d5b82aca86e59865cb56e06928827661972d44d27d9865cb51359865cb513421,
  0x22050c2149bd5806937c274791d6ccdd3711e6f1bb084132d59865cb5661972d59865cb5661972d5b81a4a2,
  0x22050c23d46e568272d84d37c271a4ab09c693d4271a44d09c6920c27388f31a4df09c4d27cdf6f49f4a852,
  0x19b67d0d52da66799b67d0d52da66814b2719e66d9f434520881430852088143085208814308691b91f09c52,
  0x19b435a06799b4359e66d9f4354b66da666d9b6799b67d0d6799b67d0d52d9b52d9b699a052d9b2719b66d9e,
  0xf9288271a57344cb52aca809c2709c2709c2709c2709c271e87b1e82708943191132d533661974e8b56794b,
  0xf5154271344d09c693d5132d4271a44d44cb509c6914d132d4b61ac2709c691ad132d4a3288272aca86e44d,
  0xb6134bc27c2709c6960d132d54350d4309c69359132d42750c4d27d431342250c6444cb509c692ad132d44d,
  0x14b27c9f6799f4349f27d9b0859a27c9f661972d49f27c2104cb56e1b827c9f2d5b827c9f27c9f27c9f1745d,
  0x271a5be09c6e4a8691b8271a5bf09ce2375be0894d050641e0220a0691902727c9f2d84d2f09f09c9f27da0,
  0x1a67089c6814b69022050f7358276f49f4a8692ac271a52909c6920c271a5c109c6970027388f51b8df2d869,
  0x19e66d9f4354b7119e66d9f4354b711a052d9e66d9f7110d52d9b70c9c6899b6794b66d9f435c22714b6919b,
  0x19f435c22714b6919b695a4711a20859e52d9b67d0d6799b67d0d52dc46799b67d0d6799b67d0d52dc46814b,
  0xd627c9f27c9f6882127c9f27c9f27c55681c635827681a46794b66d9f4349c52c2169803680137159e52d9b,
  0x1cc601cb439ca499c22714b6919b7089c7254b6919b27c9f6782250c64720b51484d4a9c709c14481aa4e8b5,
  0x9f3e4f93e4f93e4f53e4f53d4f53d4553d4f53d455738df289cd288295cdca729ca729ca729ca729ca729ca,
  0x8327c5520c8320c551846120dd073dcf73dcf73dcf73dcf73dcf73dcc601cb439cf498f5134d6358d6358f5,
  0x1d2749d27318072d0e749260a4a86ddd1745d1745d1745d1745d1745d17318072d0e7452620cd627c5520c55,
  0x6e1b86e1b86e1b86e1b86e1b86e1b86e1546e1b86e1b86e1b86e155144511474d14749d2749d2749d2749d2,
  0x556699b75421358136682914dd4751d4751d4751d4751d4751d47318072d0e751261b86e1b84d1b86e1b86e,
  0x1d37318072dd34392600cf900cf920c830a483759d6759d6759d6759d6759d6759cc601cb7590e4989f6689f,
  0x1d775dd775dd775dd775dcc601cb75d0e4984d1344d1344d1344d1344d0a44d74dd374dd374dd374dd374dd3,
  0x290a429731800a5cb439260a4ab2a1d8761d8761d8761d8761d8761d87318072dd8439263d4293d5d775dd7,
  0x19e52da466dd567cd6435da7089c7654b6919b699c2271a07654b6901408464438290a4290a4290a4290a429,
  0x1a07259e52da467c9f769a07259e52da467c9f769a07259e52da467c9f769a07259e52da467c9f155da681c9,
  0x1c96794b6919f27c55769a07259e52da466dd567cd6435da681c96794b6919f27dda681c96794b6919f27dda,
  0xf927cf927c9f27c9f27cf927dc2271d96794b6919b5e59f084f927d0d7089c725d96794b6909a66d9f435a0,
  0x1154551545515455154551545515455154551545515271d96794b6909a66c225259f191db435403e49f3e49f,
  0x14967cf927c55501dc681c96794b6919b7554967c213581343540771152b1152b1152b1152b1152b1152b115,
  0x1a45259f501dc27c9f681c96794b6914967c9f501dc27da07259e52da45259f27d407709f775a07259e52da4,
  0x1a95bde27849c781d950d9f26d3677dde509124e9a07259e52da45259f501dc774f927c5527c9f681c96794b,
  0x1a9134bc78c2727c9f785e004d2609d124e9a94349f27cb6134bc27c27134691345509c281a427225a9785e0,
  0x9f27c9f27c553582771013498274493a6a50d781a9795e45bde27849c781d950d9f26d3677dde509124e84d,
  0x16b79c290897953cc052421191366a8514490d2d5c2271a0725d96794b6909a66d9865d7967c213e50d7989f,
  0x27135ec37c281a5eb09dea5acb5388e2388f5388e23d4e2388f5388e23d4e2388f5389362d5e97a09c2d94b,
  0x14b525e92d94f300692ac271a57209c695c4271a5ed09c6920c271a46b09c696dc271a5b609c6b09c4d1a4df,
  0x1aa144b50a06937dee09dea5acb53d4553d4553d4553d4553d4553d4f53d4f53d4f53d4f53d4f5754b57a09c,
  0x9c52d49591e92d96b79c296619758d7953cc0084644d9aa1450d2d5ea5acb57a09c52d497a4b66619753cc0,
  0x69359ee09dea5acb57a09c52d49591e92d96b79c296619758d7953cc0084644d9aa1450d2d5ea5acb54d9e8,
  0x21191366a851434b57a96b2d5367a09c52d49591e92d96b79c296619758d7953cc0084644d9aa1450d2d428,
  0x1f25254367c9b050217c532191f004d42449ef2d5ea5acb57a09c52d49591e92d96b79c296619758d7953cc0,
  0x697b4691ac695cc2709c2709c2709c2709c2709c7a1ec7a09d485214804df77d9b3269f54f9f40a575089f3,
  0x1f55259f509ef2d5f55259f509ef2d46960c6935869051b65acb55acb55acb57e10d1a4ab1a4f51a44d2aca8,
  0x14967d427bcb57d54967d427bcb57d54967d427bcb57d54967d427bcb57d54967d427bcb57d54967d427bcb5,
  0xf5288271349f28ca25259f08413508277bcb57cd4967d4209def2d5f55259f509ef2d5f55259f509ef2d5f5,
  0x2104d4209def2d44d134f515427135491a59f1554209def2d4b61ac275259f08413508277bcb52aca86e49f,
  0x1c952d6b52d6b52d6b52d6b52d6b6814b5acf53d45537df57554967d427bcb57d54967c2104d427bcb55259f,
  0x1427bcb57d54967c214d9df77813509f92d5f35259f08413508277bcb552d6b26c6e1b86e1b86e1b86e1b86e,
  0x1f55259f2cc13509ef2d4f53d4f53d4f53d4553d4f5754df7d5d55259f509ef2d5f54f9757c94967df14c9f0,
  0x1ef2d5f55259f0853677dde04d427e4b55acb55acb55acb55acb5754df7f10d521485214804cf9085fb7e8f7,
  0x6e1b86e1b855755147f90d5214804c6e1b86e1b86e1b86e1b9fd5acb55acb57d53e5d5f25259f7c5327c142,
  0x2007d53e5d5f25259f7c5327c1427bcb57fd0d520131e16b2d5f54f9757c94967df14c9f0509ef2d46e1b86e,
  0x278094967d427bcb57d5d55259f3d42115413509ef2d54967d427bcb55259f509ef2d56b2d6014354804c21,
  0x21801f54f9757cdf25259f7c5327c1427bcb51a46b09d6b5ad6b5ad6b5ad6b0a575089f30a0690846480d1c,
  0x1d55259f0846e04d42818b58150d520131e16b2d5f54f9757cdf25259f7c5327c1427bcb55acb58110d52013,
  0x277bcb527c9f2d84d27c271344d27df57d029661977cd4950d9f26c211901350827449ef2d5a07254b7d56b,
  0x16b2d6084354804c831e1f54f9757c94967df14c9f050a077bcb57cd491a59f60d4209def2d5491a59f35942,
  0x9b5096f7889c781d950d9f26d3677dde4493a5acb58250d52013086007d53e5d5f25259f7c5327c1427bcb5,
  0xb58290d52013086007d53e5d5f37c94967df14c9f0509ef2d56f7889c781d950d9f26d3677dde4493a50d9f,
  0x14967c21845aa04d42840b583e0e591e97a09c834b652df55ae0c0a60b5e54f30149084644d9aa04d0d2d56b,
  0xb5835f55ae0c0a579085aa04cb58354b7d53e5d60b5e5f25259f7c532849aa50a102d60d52df55ae0c0a579,
  0xf53d4f57a5e82720d2d94b7d54f301d55259f3d45504d42840b58354b7d56b830295e54967c216a81350a10,
  0x19f085f14ca126a81350a102d60d52df54f97582df35e5f25259f7c532849aa50a102d4f5154f53d4f53d4f5,
  0x1f14ca126a81350a102d60d52df55ae0c0a5795259f085aa04d42840b58354b7d56b4fa0c0a57582d797c949,
  0x19f7c532849aa50a102d60d52df54f97582d797c94967df14ca126a942840b58354b7d53e5d60b5e5f25259f,
  0x281a50e1ae1409e0d681c952df55ae0c0a5797554967c211b9aa04d4284cb58354b7d53e5d60b7cd797c949,
  0x2102d60f839647a5e82720d2d94b7d56b8302982d7953cc052421191366a813434b51a46b09e1552d6b5d5f3,
  0x16b4fa0c0a57582d797c94967c217c532849aa04d42840b58354b7d53e5d60b7cd797c94967df14ca126a942,
  0x1424493a500b583e0e591e97a09c834b652df55ae0c0a59865e0b5e54f30149084644d9aa04d0d2d60d52df5,
  0x21777e1604d424e9402d56f7889c781d98854950d9f26e2087e1e8761c86e1a514f98661885d3677dde85813,
  0x13a435402d6235049f27c9f27c9f27c9f27c9f27c9f27c9f27d415062288a22889e0766215254367c9b51619,
  0x1e0681c97659e52da45259f77c9f5093a500b527c9f835e0681c97659e52da44f9487554967c2177c9f15542,
  0x1454c8f919219862174d9df77a167c013509124e9402d624835e0681c97659e52da45259f77d424e9402d60d,
  0x5bde2271e076621269f54f9f40a59865d75089f37c94950d9f26c217c62087e1e8761c86e1a]⟩

/-- The list of actions that an override puts. -/
def actionValue : Packed := ⟨6750, 12, 29, #[
  0x33433133343a32f41741641541441333232e00000000033433333233133032f32e30f30e30a001309001002,
  0x46d46c46b46a46946846746646546446346246146045f45e45d30830745c45345245145044f44643d33332f,
  0x48448348248031331331031231147f47e47d47c47b47a47947847747647547447347247147046f46e437442,
  0x49a49949849749649549432632632332532449349249149048f48d48c31a31c31b48b48a489488487486485,
  0x2ef0004b94b84b74b64b50000000000004a94a84a74a64a54a44a34a24a14a032a32c32b49f49e49d49c49b,
  0x51951833232e5d65a95d55cd5cc5c045345259659559459359058e59257f57e57d51a5195180002f22f12f0,
  0x6c16be6bc6bb5976ac6b96ab6b841369f6986596936b56b469968a6976b16b057f57e57d33269632e34451a,
  0x6dc6db6da6d96d86d74156d66d46d36d26d16d06cf59158f6cb6ca6c96c86c76c66c56c469c4146c36c269b,
  0x70169a7006ff15f3085995a85976996ee6ed6ec6eb6ea4176e96e86e76e66e56e44166e36e26e06df6de6dd,
  0x71971831731431071771671571471371271171033470f30b70e70d70b70a709708707706331705704703702,
  0x6eb6ea6e76e66e56e46de6dd6dc6db6da6d96d86d733330f30e6f232f30a30930f30e32a32732332031d31a,
  0x6bc6bb6ac6b96ab6b86939ed6b46976b16b06c369b6963446d36d26d16d059158f6c76c569c33232e6ed6ec,
  0x6e46de6dd6dc6db6da6d96d86d76ee6e96e86e36e26e06df6996d66d46cf6cb6ca6c96c86c66c46c26c16be,
  0x6e56e46de6dd6dc6db6da6d96d86d751a5195186d36d26d16d059158f6c76c569c6ed6ec6eb6ea6e76e66e5,
  0x6bb6ac6b96ab6b8413a865a0693a946b46999f36976b16b057f57e57d6c369b6963446ed6ec6eb6ea6e76e6,
  0x6c76c569c5186ee4176e96e84166e36e26e06df4156996d66d46cf6cb6ca6c96c86c66c44146c26c16be6bc,
  0x6bb6ac6b96ab6b8413aad9f7693b1f6b46976b16b0697a706996c369b69634451a5196d36d26d16d059158f,
  0x57d32e6ee4176e96e84166e36e257f6e06df4156d66d457e6cf6cb6ca6c96c86c66c441457d6c26c16be6bc,
  0xbd3bd2bd1aaeaafab0b73b72b71b7030f30f6cd30eb73b72b71b7000000000000000057f57e332,
  0x6c26bcc42c35c26cb8a89c49d58b73b721c81c8b51b52064b71b70bd3bd2bd1aaeb1bab0c42c35c26000000,
  0x51951830a30933373532f334331000b6fb6eb6db6cb6bb6ab69b68b67b66b65b64b63b624454442ef4431c8,
  0xc4bc47a7fb60000000c45c40000bc1bc2a7db60b5ba1cb5f000a7bc2200000082800035a35912051a,
  0x47246a46946546346245d308307000000000c58c57c56000000c54c53a83c52000000c50c4fc4ec4da81c4c,
  0x31b49449349249149048f48d48c48848631731831031148548448348248047a47947830b30c476475474473,
  0xdde6a66a42ef6a5a9cddad2030a3094a74a54a44a34a232a32b4a049f49e49d49c49b49a49949532332431a,
  0x83882a7d97ed5977ba5bd5995975baac0abfabeabcabb71b6aa2f65bbac0abfabeabcabb000deaaaeb8eab0,
  0xb66b65b64b63b62bb2b30b2f2efb2eabd720aa3ababd3bd2bd1d545bb5b2ab971b6aa2f684a83882a7d984a,
  0x59159058f58e452592000eb8833ea7ea2e92e8fa9fd04e1b6af6ad2ef6aeb6fb6eb6db6cb6bb6ab69b68b67,
  0x6be6bc6bb6ac6b96ab6b841369f7936f76937ea6b469973c6976b16b0696344000599597596595453594593,
  0x6d74156d66d457e6d36d26d16d06cf59158f6cb6ca6c969a6ac6c86c76c66c56c469c41457d6c36c269b6c1,
  0x293086996ee6ed6ec6eb6ea4176e96e86e76e66e56e44166e36e257f6e06df69a6de6dd6dc6db6da6d96d8,
  0x31731431071771671571471371271171070f30b70e70d70b70a70970870770670570470370270169a7006ff,
  0x60f60e60d60c60b60a6096085f85f40000005bd5995975c100032a32732332031d31a719718,
  0x95895795495395295195094f94e94d0005a15da000000000000000000000000000000000000000000000000,
  0xd56d55d4cd38ca3ca4d35d34d2c94ac3ad0ccbaca194a00096896762096600096033395d32f95c95b95a959,
  0x7acdd5d7bd7ad79d78d77d76d75d74d73d72d71d70d6fd6ed6dd6cd6bd6ad69d68d65d64d63d62d61d60d57,
  0xe8ee88e845f4e775a859b5995975b3e2c00000071a2f4dfddf9df8df7c19c14c12c13c1adeb7b37b2dddddc,
  0xf9af95f9460e5a85c85995975c760d60c60b60a6096085a85c45995975c5693b7f000000000693a1f0005f8,
  0x5a85d25995975d15a85d05995975cf5a85ca5995975c960f5a85b75995975b65c15a85a25995975a1693b43,
  0x31d31f31e31731931831431631544e44d30b30d30c44c44b43c2f32f52f343643532d2f35a85d45995975d3,
  0x5a10000005d859100058f00017917300059100058f0000005cb5b95b859159058f58e327329328320322321,
  0x2f30005a25975a10000005da5d959100058f0005eb5dd5db0000005c25af00059000058e59100058f0005d8,
  0xbc3bb9bacbabba1b9ab99b922bca25dd4db39db6596c46c45c000069e65569d69c69b69a68a6895b1000692,
  0xbcabc6bc5bc0bbebb3120538bcfbcdbc9bc4bbdbb1a1bc0ec0dc0cc0bc08c07c06c05c04c03c01c00bccbc8,
  0x5aa5a9ea0955a1b538a88955d055a75a4dedd816f76c469d69e69d6f3ddbbe5be4be3be2be0bdbbd0bcebcb,
  0x2f62f471b71a6ab6a96aa6a86ce6cc6cd6c06bf6d56a06ba6b76b66b36b269569468868768668559c68459c,
  0x7336aa6a86a80002f400079279173c73b5b179069478073d73e73d73a2f373968773868559c73759c4136a7,
  0x7e96b26b171c69770c0002f400071a0006a869770c5970006b171c79a73d2f47362f62f471a73471b71a6a8,
  0x6b15af6b171c69c69b0006ac00073a0006ce6cc6cd00070071d7007ef6bf6d57bc6ba6b171c7ec6b676f73d,
  0x32300032000031d00031a0003170003140003133100006b171c30b0000005978177917f873d6b171c69770c,
  0x69c00069a6b171c00071c6b170c69771c5978177918795a15c15a86b171c6ac0006b100032a000327000326,
  0x6bb0006970005a169c00069a69770c69c00069a7927913080006b171c88473d6a80000006ab2f4000000413,
  0x91100091000090900090800090700090571c6b171c6b18f073d71c6b18db73d8cc73d000734700000000,
  0x95e2f394c94b79279191e73d69c00069a00059751a51900151873600073400073300000069771c00000091a,
  0x64664664264263e63e63a63a35a63263100035a12068300035a8af6f900035a90400095f,
  0x5cd5d65cc5a90015d500035a8c681e0000000000000000007f57f57f47f47f37f312e12e12f12f35a12606c,
  0x6999e5697a14a13a12a11a10a0ba06a019fc0019ec9eb6b29ea6949e50009e25b15a769330f6cd0009885b8,
  0xa63a67a62a61a5ca5ba83a81a7fa7da1ca7b000a71a606bf6d5a5d6ba9f39f25b168364664263e63a2bc538,
  0xa93a9b00030f6cd000a986bf6d5a956ba000a93a70a6f5b1a856b2a6ea6ca6ba6da69a68a6aa66a65a64,
  0xa19b48b49b5ab47b46b44b45697a9b000ab49e25b1a890009ea694b206bf6d5b1c6ba000a939ea694ab16b2,
  0xa25538a7c2bca1bc5a000c59000c55000c51000c4ac46000c3f000c1e000b61a84a82a80a7ea7ca7aaa8aa6,
  0xac9ac8ac7a34a33ac6ac5ac4ac3ac2ac1a28a27a21a20000aaaaa9000aa9aa7a84a82a82a80a80a7ea7ea7e,
  0xae4ae3ae2ae1ae0adfadeadda43a42adcadbadaad9ad8ad7ad6ad5ad4ad3ad2ad1ad0acfaceacdaccacbaca,
  0xb00affa4dafeafdafcafbafaaf9af8af7af6af5af4af3af2af1af0aefaeeaedaecaebaeaae9ae8ae7ae6ae5,
  0xab5aa2aa1aa0a9d2bca9fa9eb15b14b13b12b11b10b0fb0eb0db0cb0bb0ab09b08b07b06b05b04b03b02b01,
  0xe6fe6ee67d16d15dd0b53d08cb2c9f000000b4fb4db4eabdaa3abaab9ab3ab2aa4aa3abdabaab9ab8ab7ab6,
  0xef3ed9ed7ed6ed3ed2ecf000e9ce9ae99e98e96e95e8de8ce89e87e86e85e82409c185de3b458ce7ee78e73,
  0x419c80fa55def91f67f64f63f62f5ff5ef5df5cf5af59f40f3ff3df3cf39f1ef1df1af19f16efbefaef7ef6,
  0xb4cb4ab9eb4bb8ab8bb88b89b85b86b83b84b7cb7db7ab7b697ab4000b54b556555a7b539d59d6fa8fa7fa6,
  0x866865ec7ec6ec5ec4eb7849848847eb6836835834e90762e12dffdfed36d37dec8b8000bda5aaba9ba3ba2,
  0xbdd6d55f9bdcbd9bd85f6bbfbc7b5eb5ccb4cb3000b5dbb75f5bb48a78a48a38a0f1b799ef8798000ed4796,
  0xc026bf606bfd605bfcbfbbfa603bf7602bf6bf5bf4600bf15ffbf0befbee5fdbeb5fcbeabe9be85fabe16ba,
  0x71c6b15c45995c25975bb5c380a59779c8868f28dd8ce7fa920742766e1100077780bc0fc10797c0ac09813,
  0xc3cc3b000c30000c28c29c7fc7ec7dc7cc6ec67c66c60c41c2ec2dc23000c1bc1ccc4000c809dc9db5bb5ba,
  0xdd8a15cfc0007e6cc37c1c84c8532788232832088132131d88031e31487f315c5bc5c30f6cd000c3ec3d000,
  0xe81e7a000e71000c8f9690009df9ddc097adccacc9cc6cc5c91c90c89c87c88eb5ea8ea1e9fe9de9be8add9,
  0xf3ef3bf2cf21f20f1ff1cf18f09efeefdefcef9ef5ee6edbedaed8ed5ed1eccecbecaec8eb4ea6ea5e97e94,
  0xf84f83f82f80f7ff7ef7df7af79f78f77f74f73f72f71f6ef6df6cf6bf6af69f68f66f65f61f4ef43f42f41,
  0xb57ca7c97a59ca6c94c93ca5c92b4bf9ff9ef9df9cf9bf99f98f97f96f92f8ff8ef8df8bf89f88f87f86f85,
  0x9f400059d000c69c68c38c37cb9c36cb1cb0aa9cafca9ca8001caecabbb6c5fc1d7afca2000797ca0b58a5a,
  0xdfad1bd1cd1dd1ede9d89d88d7dd19d18d00000d11cfecffdd32bccfdcfacfbcf8cf9cf7cf60005afa88000,
  0x95c95b95a959954953952951950e1a94e94fe18e17e16e1595894dd51d52e10e0fe0cd4dd4e957c8ad33,
  0x2fad1fcfed12d0fd1081ad13d14000d0ed0dcceccccadc99c98c9ad03d02da0d9fd9bd8ad87d7ed1ad17d01,
  0xd26000d24d8c883d2280d80cd8d000d23000cc7c8b33db876bf6bab806d5d59d5ae14e0ae09d25000d21c8a,
  0xd8ed8fec3ec2ec1ec0ebfebeebdebcebbebaeb9eb3eb2eb1eb0eafeaeeadeaceabeaaea9832ea381c000d27,
  0xf03f02f01f00effda2da3ef0eefeeeeedeeceebeeaee9ee8ee7ee5ee4ee3ee2ee1ee0edfedeeddedc895894,
  0xf2ef2df2bf2af29f28f27f26f25f24f23f22db4db5f13f12f11f10f0ff0ef0df0cf0bf0af08f07f06f05f04,
  0xf57f56f55f54f53f52f51f50f4ff4df4cf4bf4af49f48f47f46f45f44dbadbbf36f35f34f33f32f31f30f2f,
  0xd2bdcd89adcc899dca898db8897db2896d96892d4b81b35f515d28d07d06e13d47d48e0be06deed29000f58,
  0xd5dd5cd5b001d53000d4ad49481d46ba0d39d92d92b30d32000a91d31d50d4fd30a16d2f000d2eaa5d2dd2a,
  0x59dd9dd9cd9ad99d98d97d95d944aad93d9100051bd902fed8bd83d82d80d7f797d7cc09765d67d66d5fd5e,
  0xdcfdce527dcb4b0dc9524dbc000a71a87694db99f44aedb7521db64acdb151eda4300da1000a71a50694d9e,
  0xdf0defde7de8de5de6de3de4de1de2d09d0bd0ade0ddfdd6dd75dd5db5d25995c25970005dc8b8dd2dd1000,
  0xe1fd84d86d85e1de1ce195dbe0de0ee08e07e05e04e03e02e01e00d3ad3cd3bdfbdfcdf5df6df4df3df2df1,
  0xe3ce3be3ae39e38e37e36e35e34e33e32e31e30e2fe2ee2de2ae2be29e28e27e26e25e24e22e23e20e21e1e,
  0xe56e55e54e53e52e51e50e4fe4ee4de4ce4be4ae49e48e47e46e45e44e43e42e41e40e3fe3ee3dda5da7da6,
  0xf7bf75f6ff5be6c001e6ae6be68e69e66e65e64e63e62e61e60e5fe5ee5de5ce5bdbddbfdbee5ae59e58e57,
  0x1e75fa3001e74f8c001e72001e70000c95c7bc7ac79bfebffb8fb90b91c11ced02ec86f93f8ae83001e6d,
  0xfa2fa1fa0f90e93001e7df38f15ef2ecee7c001f37f14ef1ecde7b001ec9e76001001e79ec9e76001e9ee8b,
  0x2f52f62f4001ea4e910018ad8ac8ab837829001812f81f7cf76f70f60001e80f3af17ef4ed0e7f001fa9fa4,
  0x59759c0005970005a65a559c0006f16f06ef6e36e16cf6bd6a36a26a16a06596556546586576562f4000,
  0x6e36e16cf6bd6a37be7bd7bc7ee7ed7d87d969770c7bb6a86ab7952f44137946f76f36546f66f56f4000597,
  0x5a059d59c00059f59e59c6ab7950006ab7957337d70006aa4137940004137947367d60002f60006f16f06ef,
  0x9486ab6a90004136a70000007362f400073471a0007336a871d0007008270007056bb71d0006bb6bb71d000,
  0x9f86850009f69f559c9e99e86879e79e66859e49e36b69da9d96879d89d76855a65a559c9569555a994a949,
  0xa2a538a29a28a27a26a24a20a23538a22a21a20a56a55a54a53a52a51062063a1ea1da1aa189fb9fa6879f9,
  0xa42a44a43a42a41a40a3fa3ea3da3ca3ba3aa39a38a37a36a33a35a34a33a32a31a30a2fa2ea2da2ca2ba27,
  0xcb5cacc96c34c2fbb6bb5aac0006ef6f16f06e36e16cfa5fa5e6bda4fa4ea4da4ca4ba4aa49a48a47a46a45,
  0xbe7be6bd6bd5ba0b9fb94b93cf0ceece4ce3ce2cddcdccdbcd6cd5cd4ccfccdccbcbfcbecbdcbccbbcb7cb6,
  0x6f16f06e36e16cfa97a966bd9da9d96879d89d76855a65a559c5b05b2000a73a726b6bf9bf8bf3bf2bedbec,
  0x6ef6e36e16cf6bd6f1b1eb1d6f0b1ab19b18b17b16a9aa996b6c6fc6dc65c48c39c27b2db2cb2baac0006ef,
  0xb755a77436f55bf58db56b41b2157957a57bb2ab29b28b3cb3bb39b38b36b35b32b31b42b232beb22aac000,
  0x74e75b75a9017018097019300008ef0007eb7018ec00075f6567015a0657b7eb78b76657b59655b79b77,
  0x75c74f74174074574474974874774c74273e74674a73f75574b7548ff75a80775a92e0008ed0007e775a8ea,
  0x77f7547a975a89b00076176075a7ab70189d0007846f470190075c80875c92f0008ee0007e875c8eb00075d,
  0x79c79a79f7a379b7a87a47547aa75c89c00077475c77577377277977877d77c77b78177778077a77e776785,
  0x8068027547f076e75476876776c76b76a77076676f76976d7647f076e7547a87a475479e79d7a27a17a07a5,
  0x88888788c88b88a88f88688488988d88589388e7548068027547fc7fb8007ff7fe8037fa7f87fd8017f9,
  0x8e18e68dd8db8e08e48dc8e98e57548da8d60008d08cf8d48d38d28d78ce8cc8d18d58cd8da8d675489388e,
  0x92791f92c9287548fe8fa7548f48f38f88f78f68fb8f28f08f58f98f18fe8fa7548e98e50008df8de8e38e2,
  0xcf5cf4cf3cf2cf1cefcaa0006bd6ef6f16f06e36e1b82b816cf92c92800092292192692592492992091e923,
  0xbb8baab97b502c22c157cb3fb34b33b40b3eb3db3ab37b24b27b26bd4b25bd7b96b95b8db8cb33ba5ba4,
  0x83a87a87787582e8c381412082c96f9691209634059a39a29a19a099c99b99a99899972f40eb745a32d82d7,
  0x8a189e98798686f86898585898484c97d8428c883a9798a98a58a189e86f85884281812083086884c87d8c8,
  0x89e73098798686f86898585898484c97d8428c883a9798308c382c96f81881498a87d87a8778759898a98a5,
  0x86785985784d84b84384183b8398317d182f7ca82d7c58197b581571f98a87d87a87787582e9898a98a58a1,
  0x7f47f312e12f12606c8af6f91209048aa8a88a68718a285d89f7e187e87c87b86a8788518767da87086e869,
  0x81e40e40e9040008af7f57f47f312e12f4124108af8af7f57f57f47f47f37f312e12e12f12f40f4117b47f5,
  0x9a500096400099f99e99399240e98b00097e97c97b97a97897197096e4129649629659618c681e40e40e8c6,
  0x8c79b69068c71207867256fa5e168364664263e63a7316f864664263e63a6326317306836f99ab9aa9a6994,
  0x1209d49d19cc9c99c69c39c094794694594494394294194093f93e93d93c93b93a9381209399bf9ba9b790a,
  0x9c29c19be9bd9bc9bb9b99b89b59b491991891791691591491391290f90e90d90c90b0005ea12078a1205ea,
  0xa09a08a07a05a04a03a02a009ff9fe9fd9f19f09ef0629ee0639d39d29d09cf9ce9cd9cb9ca9c89c79c59c4,
  0xb9db9cb9ba77a76a92a91a78a75a74a15a90a8fa8ea79a8da8caabaa5a8ba8a507506b98a0fa0ea0da0ca0a,
  0xc61c24c25c15c17c16c43c440006bd6ef6f16f06e36e1bdfbde6cfbbcbbbbbabb0bae535bafba8ba7ba6bad,
  0xc6c6a5c63c62c64c33c32c316a5b2ec2bc2ac2c6a5b2ec20c1fc21c76c77c73c74c70c71c5dc5ec78c75c72,
  0xc81ceace9ce6ce5cdfcdecd8cd7cd1cd0cc1cc0c9cc9bcecce8ce1cdacd3cc8c8dc8c001c82c816a5c6bc6a,
  0xd40d41d3fd3dd3ecebce9ce7ce5ce0cdecd9cd7cd2cd0cc2cc0c9ec9dcecce8ce1cdacd3cc8c8ec8c001c83,
  0x58c036000040195192036dc8dc6dc7dc5dc3dc4dc2dc0dc1db0daedafdaddabdacdaada8da9d45d43d44d42,
  0x1af16816804f0005c63441a91ac0003445c617c17f0365c634417917958c1730003445c617212a0361675de,
  0x19a19d0363445c618d0670365c63443445c616b16f03635a0003590420411d11d01cf1ce1cd1cc1cb1ca1c9,
  0x560555805c634403600035a0670650661841835c634419018818f18a0365c63441a11a40365c63443445c6,
  0x19503619a19d03618d06703617f03612a03616b16f0361d11d01cf1ce1cd1cc1cb1ca1c91af000000168167,
  0x17900002802758b1792c22c157c17957957a57b5775765781841831a91ac03619018818f18a0361a11a4036,
  0x2c157c00016f06518e00000000006504218557957a58d00018418300002802758b00016f18216b056055580,
  0x5ad5ac3440005c616f5d716b5c63440003440005c63440005be57a5bf02802758b2d82d75a35775765782c2,
  0x5b05b25ab5af5d45975d35d25975d15d05975cf5c85975c75ac0005bd5b15a85c10005ce0005ac5975b15ae,
  0x78a7c97c77c67c55b15ae5ad5ac5b15ae5ad5ac5b15ae5ad5ac5c45ab5c25c35b15ae5ad5ac0005bc5bb5ba,
  0x85084f84e84b9af9ae9ad9ac0005ea7dd7dc7e07df8407de83f7db7da9a900083e83d83c8397c80005ea7c8,
  0x422424426a152d82d7a16a1799098f98e98d5ea99699599486d86c86b86a9b29b1000856855854853852851,
  0x18418300016800018216b16f0364274281841831d11d01cf1ce1cd1cc1cb1ca1c91af000000168167423425,
  0x18519018818f18a0364314321a11a403643e43f19a19d03643343404206506618d06703642c42d00006518e,
  0x42f43043b42e40419219500043843916742b00003642e17942340442242942a1a91ac036440441000065042,
  0x2c157c12f12e57957a57b00000012f12e58c00012f12e12f12f12e12e35a35912011f3ae12612317c17f036,
  0x5a05995a259d5a112f12e12011f59812659a12f12e41241012f12e41140f3ff12f12e40540140e12f12e2c2,
  0x59b5975b359c00059c0000005bd5a85d20005d159c5975c45975c55d00005cf59759c0005a75a65a55a459c,
  0x78d78c78b00078a7895ea7887875b55b45b15ab5af00059c5975d45975d35ca5975c95c85975c75b75975b6,
  0x7e19b00008468458448417d40005ea7d47d57d37d21207d19a89a70007d05e17cf7ce7cd7cc7cb7ca78f78e,
  0x5e17327b97b87b77b67b58748738728719b300086085f85e85d85c85b85a8577e40005ea7e47e57e37e2,
  0x6836f95ea9976fe6fd6fc6fb6f87295e173212071e5ea72012072472372272171f98398298198097f5e1991,
  0x404400403406a58a5aa57000a599dc9db9e09de9e168364664263e63a5e173264664263e63a6326315ea120,
  0x75771371175670a75375275175074f74d74170274072e72d72c72b72a7297285e972772672512f12e407402,
  0x8c200081a8ad8ac8ab83782900081289589483281c81388380e80d80c0008b882b00080f00079775e759758,
  0x7b27ac7ad7f17977c100075975875771371175670a75375275170278377578277375e7720008337f17c47c0,
  0x7f27f175e75975875771371175670a7537527517a77757a67737027727e67c07c47c37537c27517c07bf7b3,
  0x89889789689281b35f8b880f7f100079775975875771371175670a75375275170276374f77174175e740000,
  0x74f8047417027407997987965b27628a78a48a38a086686586486386286184984884783683583476589a899,
  0x8907027737727f77f67b07af7ae7b105264c81053581100081675e75975875771371175670a753752751805,
  0x7527518d974f8d87027417408ca8cb8c48c58c97e60008ae75e75975875771371175670a753752751891775,
  0x7537527518e874f8e770274174093793693593493393293192d91c00090275e75975875771371175670a753,
  0x91b75e75975875771371175670a7537527518fd74f8fc70274174091d00090375e75975875771371175670a,
  0x96d5ea96c96b96a6f56f46f377300075e75975875771371175670a75375275192b74f70292a7417400007f1,
  0x65a65365265165064f64d64b06c64a69169068f68e68d64e07268c58106968b977976975974973972000729,
  0x67767667567467367267167066f66e66d66c66b66a66966866766666566466366266166065f65e65d65c65b,
  0x82582482382282081f81e81d8b78b68b58b48b382136c8b28b00698b168168067f67e67d67c67b67a679678,
  0x64163d61d61c61b61a61961861761661453d6135e26126116108c18c05e98bf8be8bd8bc6158bb8ba8b9826,
  0x5fa5f95f75f65f55445e15e85e75e602e5e52bc5e45e35380005e05df64864764464364063f63c63b649645,
  0x5355335825835f35f25f15f05ef5ee55254a5ed5ec5455396076066056046036026016005ff5fe5fd5fc5fb,
  0x55655555355456a54554354254154053f53c53b53953753653253458a58958858758653e07258558453a581,
  0x56855155054f54e54d54c54b54654756757556656556456356256156055f55d55e56b55c55b55a559558557,
  0x3403340b03240a3b93b83b73b600e3b500c3b340940857457357257157056f56e56c56d55254a549548569,
  0x3ba3b43ad3b23b13b03af3ac12f12e12011f3ae12612317912a17303617204019519203699d0003ba98c,
  0x6346336399a40000002e92e84212e742041f41e41d41c2e141b2df41a41941817940d17303600040c12f12e,
  0x62d62c62b62a62962862762662562462362262161f61e64664263e63a6326316836371203b4638682636635,
  0x5175165150492c406106005f0432c62c52c32bd2bc2bb03b03a2c02ba2b95132bf0642be03551463062f62e,
  0x4100004f00016716800018204016f03616b4b44b34b252852752652552452352252152051f51e51d51c51b,
  0x11210e1041031ac0361a918a00018f1a40001a119d03619a19503619206703618d17f03617c12a036172042,
  0x51251151045b45a4594584574564554544484474b14b04af4ae4ad4ac4ab4aa48e48144944a1111102cf2ce,
  0x4d94d74d64d54d44d34d252a50d50950850e50c50a50350f50b50750650550450250152c04016f06503618e,
  0x2d31b81b72d22d11b32d51c81b02da4e44e04df5294e54e34e14d84e74e64e252b4de4dd0280274dc4db4da,
  0x4f24f04ef4ee4ed4ec4eb52f04016f06503618e4ea4e94e81c41c32dc2d61c61c51c12db2d92d42d82d71c7,
  0x4c34c24c14bf4be4bd4bc4bb4ba52d4fd4f94f85314fe4fc4fa4f15004ff4fb5304f74f60560554f54f44f3,
  0x16304c15e15d04b04a15c0531621610451601654ce4ca4c94cf4cd4cb4c04d14d04cc52e4c84c74c64c54c4,
  0x1ce1cd1cc1cb1ca1c91af0000001681673c73c63c43a534400000002e16605905b15f11e02510605116404e,
  0x12a11d03637637737237436e36d2952b81ac03618a0361a403618418319d03606703616f0361d11d01cf,
  0x3db3df3da3d83d73d63d53d93d43d23d13d03cf3d33ce3cc3cb3ca3c93cd3ab3a93a83a73a63aa17f036195,
  0x3fd3f83f63f53f43f33f73f23f03ef3ee3ed3f13ec3ea3e93e83e73eb3e63e43e33e23e13e53e03de3dd3dc,
  0x6518e16800000018217016e16916d16c16b16a1711a71ad1ab1aa1a91a81ae3fe3fc3fb3fa3f9,
  0x1a01a600019003600018f18818b18a18904218718518618c04206506617717616916d17518d174178184183,
  0x36915b36813733f34533d35b13805213504d0460441363c33c13c02f71343bf3be3c21a51a316916d1a21a1,
  0x19c16916d19b19a19919f35e35d35c3013002ff2fe2fd2fc2fb2fa14015a2f92f838738638538438313936a,
  0xff0f60f53053bd10a1081013bb2020fc0fb0fa2001ff3bc39038e38d34c38c38b38a34838938838f19819e,
  0x3c73a40131690003440002982961d734416d1d31d2297339338337336335303302358357072351306052304,
  0x20920837135034e34d34c34b34a34934834734634f36e37d37937837637537237336c36b2952943c43c63c8,
  0x36136b2952a03c43c63a439839739639539439339239134405b2a236e37a2a314d1491462a120d14214113f,
  0x2502b62952b03c63a434405b2b22b324c24a2472b124524424324223f23e37c36736636536436336236035f,
  0x3423a23a13a039f3a339d39c39b39a39e37237f2952b43c63a41690002b725d25b2582b5256255254253251,
  0x13a13913303e13203d04004f13113003704204103635535435335235634305234134033f33e33d33c33b33a,
  0x3723802952a83c63a41690002ab27f27d19827a2a92782772762752732722aa067065066137157156155154,
  0x522ea14415d14016213c13b2eb2952ac3c63a534405b2ae2af29028e1a728b2ad289288287286284283381,
  0x11f12612317917300012d02a02902802702412b12912812701e01212512417212212112c1521512ee2ed2ec,
  0x29a1e501d01400a1e00001df29b17a18017f17e03617d17c17b18119619519400019319219119712f12e120,
  0x2a43c539901e0002a72282242212a521f21d21c21b2182172a637036f2952993c539938234402d02c026023,
  0x2e52e42e32e22e12e02df2de2dd0212cb01f2c90340330322cd2cc0ef2d00ed00e2ca00c2c82c737037b295,
  0x13e13d03514c37037e29529c3c539901e00029f26e26c17a26929d26726626526426226129e2e92e82e72e6,
  0x20d20c00020b20a20920821206406306206106005f15304315014f14e14b14a14814703b03a145143038049,
  0x1d61d51d41da2311dd23010a10810722e1011d81d70fc0fb0fa22d1d31d222f21621521421321121020f20e,
  0x1000ff0fe0f80f70f60f510920720620510b05703f1052032020fd0f92012001ff2041de1dc1db14b14a1d9,
  0x27927827727627527427327227e11c11b11a11911811711611511411311211111010f10e10d10c104103102,
  0x1fc1fb0591f91f811e0541f70511f61f51f404b04a0531f31f21f11f01fa28228128027f27d27c19827b27a,
  0x24824724624524424324224124023f23e24b23d23c23b23a2382372362351632342332321611602391fe1fd,
  0x28728628528428328f26025f25e25d25b25a25925825725625525425325225125025c24f24e24d24c24a249,
  0x15a15905c15805703f03c05205004d03914004804704604405829329229129028e28d1a728c28b28a289288,
  0x1e91e81e703b03a1e61e41e30491e21e10351eb06706506604405d05a03e03d04004f03704203604105e15b,
  0x27026f26e26c26b17a26a26926826726626526426326226126d06406306206106005f1ef0431ee1ed1ec1ea,
  0x1b41b31b21b11b01bd22c22b22a22922822622522422322222122021f21e21d21c21b21a219218217227271,
  0xc0e80e70e60070e50e40f11c81c71c61c51c41c31c21c11c01bf1be1bc1bb0280271ba1b91b81b71b61b5,
  0x900800600502b0340330320f40f30f20f00ef0ee0ed01c01b01a0190180170160ec0130eb0100ea00e0e9,
  0xe00df0de0dd0dc0db0da0d90d80d70d60d50d40d30d20d10d003103002f02202102001f01501100f00d00b,
  0x7f07e07d07c07b07a07907807707607507307207107006f06e06d06c06b06a0690680740040030e30e20e1,
  0x9c09b09a09909809709509409309209109009608f08e08d08c08b08a089088086085084083082081080087,
  0xb70b60b50b40b30b20b10b00af0ae0ad0ac0ab0aa0a90a80a70a60a50a40a30a20a10a009f0c50cf09e09d,
  0xce0cd0cc0cb0ca0c90c80c70c60c40c30c20c10c00bf0be0bd0bc0bb0ba0b90b8]⟩

/-- The base of each row of nonterminals. -/
def gotoBase : Packed := ⟨2079, 12, 29, #[
  0x1500000000000000000000000000c000000000000007000000000000000000000000, 0x0,
  0x4a000000000000000000000000000000000000000000000000000, 0x0,
  0x86000000000000000000000000000000000000000000000000000000000, 0x0, 0x0, 0x0, 0x0, 0x0,
  0x139139000000000000000000000000000000000000000000000000000000000000000000000000,
  0x158158000000000000000000000000000000000000000000000000000000000000000000000000000000, 0x0,
  0x0, 0x0, 0x0, 0x0, 0x0, 0x0, 0x0,
  0x1600000000000d000000000000000000000000000000000000000000000000000000000000000000, 0x0,
  0x28b28b28b00000028800700000000000028213b27f27f000000, 0x0, 0x0, 0x0, 0x0, 0x0,
  0x334333332000000000000000000000,
  0x36136136136100035f35735c35b35b35835735835713a000000000000000000000000000000000000000000,
  0x361361361361361361361361361361361361361361361361361361361361361361361361361361361361361,
  0x13a361361361361361361361361361361361361361361361361361361361361361361361361361361361361,
  0x3b93b93b93b43b43b43b43b40003b23af3ae3af3ae13b3ab3ab13b0003a80000000003a43a23a213a39f39f,
  0x3d80003d63d33d33d33d03d03d00003c53cb3cb3cb3c53c53c53c53c53c53b43b43b43b43b43b43b43b43b9,
  0x3ee0000000000000000000003e60000000000003e10000000000000003db0003d9,
  0x407000000404000000000000000000000000000000000000000000,
  0x42c00000000000000000000000000000000000000000041d000000000000000000000000000000,
  0x361361361361361361361361361361361000000000000000000000000000000000000000000000000000000,
  0x463000361361361361361361361361361361361361361361361361361361361361361,
  0x472472472472472472472472472472472472472472472472472472472472472000000000000000000000000,
  0x492492492492492492492492492492492492492492492492492492000472472472472472472472472472472,
  0x4c04924be4924bc4924ba4924b84924b64924b44924b24924b0492492492492492492492492492492492492,
  0x4d04ce4ce4ce4ce4ce4cc4cc13a4ca0000000004924924924924c2492,
  0x4ed4ed4ed4ed4ed4ed4ed4ed4ed4ed4ed4ed4ed4ed0000000000000000000000000000004e2000000000000,
  0x4ed4ed4ed4ed4ed4ed4ed4ed4ed4ed4ed4ed4ed4ed4ed4ed4ed4ed4ed4ed4ed4ed4ed4ed4ed4ed4ed4ed4ed,
  0x49252f52f52f52f52f26352c52c52952a52952752700052500026300000000000051e0000004ed4ed4ed4ed,
  0x55155054e54e25954b54b54954954754725954454454254253c535535535535535535535535535535535535,
  0x55355355355355355355355355355355355355355355355355355d553553553553553553553553553553000,
  0x58958958956158755358555358357e57e57f57e57e553553553553553553553553553553553553553553553,
  0x59f59f59f59f59f59f59f59f59f59f55b59d589589589589589589589589589589589589589589589589589,
  0x5b75b75b75b75b75b75b75b75b75b75b75b75b75b75b75b55b55535af5af5af5af5af5895ad59f59f59f59f,
  0x5e25ca5e05ca5ca5ca5ca5ca5ca5ca5ca5ca5ca5ca5ca5ca5ca5ca5ca5ca5ca5ca5ca5ca5ca5c85c85535c6,
  0x5f95f95f95f95f95f95f95f75f75535f55e65e65e65e65e65e65e65e65e65e65e65e65e65e65e65e45e4553,
  0x61961961961960960a60a61061061061061061060a6096096096096096093616066065f95f95f95f95f95f9,
  0x63960963761a619619619619619619619619619619619619619619619619619619619619619619619619619,
  0x655655645645645645645645645645645645645645645645645645639639639639639639639639639639639,
  0x65965965965965965965965965965965965965965965965965965965965965965965965965965965960a655,
  0x60b68e68e68c68c67865f65a65a659659659659659659659659659659659659659659659659659659659659,
  0x691691691691691691691691691691691691691691691691691691691691691691691691691691691691691,
  0x691691691691691691691691691691691691691691691691691691691691691691691691691691691691691,
  0x6cd6cd6e56cd6cd6cd6cd6cd6cd6cd6cd6cd6cd6cd6cd6cd6cd6cd6cd6cd6cd6cd6cd6cd6cd6cd6cd60d692,
  0x6ee6ee6ee6ee6ee6ee6ee6ee6ee6ee6ee6ee6ee6ee6ee6ee6ee6ee6ee6ee6ee6ee6ee60f6ce6cd6cd6cd6cd,
  0x70e70e70e70e70e70e70e70e70e70e70e70e70e70e70e70e70e70e70e70e60e6ef6ee6ee6ee6ee6ee6ee6ee,
  0x73773773773a73a73773773760c70f70e70e70e70e70e70e70e70e70e70e70e70e70e70e70e70e70e70e70e,
  0x65575a73b738737737737737737737737737737737737737737737737737737737737737737737737737737,
  0x76876876876876876876876876876876876876876876876876876076576576076376076076060975e65975c,
  0x791791791791791768769768768768768768768768768768768768768768768768768768768768768768768,
  0x7b17b1768792791791791791791791791791791791791791791791791791791791791791791791791791791,
  0x7b27b17b17b17b17b17b17b17b17b17b17b17b17b17b17b17b17b17b17b17b17b17b17b17b17b17b17b17b1,
  0x68d7ea7ea7e27e77e77d87e37e37e37e27dd7de7de7de7dd7d77d87d87d87d87d76457d57b17d17d27d17b1,
  0x8018018018018018018018018017f27f17f17f17f17f17f17f17f17f17f17f17f17f17f17f17d37ee7ee771,
  0x81c81c814801801801801801801801801801801801801801801801801801]⟩

/-- Where the overrides of each row of nonterminals begin. -/
def gotoFirst : Packed := ⟨2080, 13, 27, #[
  0x6002e01600a8050026012008804001e00e006803001600a004802000e00600280100060020008000000000,
  0xcc06403101800bc05c02d01600ac054029014009c04c025012008c044021010007c03c01d00e006c034019,
  0x13809a04c0258128092048023811808a044021810808204001f80f807a03c01d80e807203801b80d806a034,
  0x1a40d006703301940c806303101840c005f02f01740b805b02d01640b005702b01540a805302901440a004f,
  0x21010608204082000fe07e03e81f00f607a03c81e00ee07603a81d00e607203881c00de06e03681b00d606a,
  0x27c13c09d04e026c13409904c025c12c09504a024c124091048023c11c08d046022c114089044021c10c085,
  0x2e81720b805b82d816a0b405982c81620b005782b815a0ac05582a81520a8053829814a0a405182881420a0,
  0x3541a80d306903441a00cf06703341980cb06503241900c706303141880c306103041800bf05f02f41780bb,
  0x3c01de0ee07683b01d60ea07483a01ce0e607283901c60e207083801be0de06e83701b60da06c83601ae0d6,
  0x42c214109084041c20c105082040c20410108003fc1fc0fd07e03ec1f40f907c03dc1ec0f507a03cc1e40f1,
  0x49824a124091848824212008f847823a11c08d846823211808b845822a1140898448222110087843821a10c,
  0x50428013f09f04f427813b09d04e427013709b04d426813309904c426012f09704b425812b09504a4250127,
  0x5702b615a0ac85602ae1560aa85502a61520a8854029e14e0a6853029614a0a4852028e1460a28510286142,
  0x5dc2ec1750ba05cc2e41710b805bc2dc16d0b605ac2d41690b4059c2cc1650b2058c2c41610b0057c2bc15d,
  0x6483221900c7863831a18c0c586283121880c3861830a1840c186083021800bf85f82fa17c0bd85e82f2178,
  0x6b43581ab0d506a43501a70d306943481a30d1068434019f0cf067433819b0cd06643301970cb0654328193,
  0x72038e1c60e287103861c20e0870037e1be0de86f03761ba0dc86e036e1b60da86d03661b20d886c035e1ae,
  0x78c3c41e10f0077c3bc1dd0ee076c3b41d90ec075c3ac1d50ea074c3a41d10e8073c39c1cd0e6072c3941c9,
  0x7f83fa1fc0fd87e83f21f80fb87d83ea1f40f987c83e21f00f787b83da1ec0f587a83d21e80f387983ca1e4,
  0x86443021710b0854428213109084442020f107083441820b1050824410207103081440820310108044001ff,
  0x8d046623211888c045e22e11688b045622a11488a044e2261128890446222110888043e21e10e887043621a,
  0x93c49c24d126092c494249124091c48c245122090c48424112008fc47c23d11e08ec47423911c08dc46c235,
  0xa044fe27d13d89e44ee27513989c44de26d13589a44ce26513189844be25d12d89644ae25512989484a2250,
  0xad05642b01570ab45562aa1548a9c54a2a31508a7c53a29b14c8a5c52a2931488a3c51a28b1448a1c50a283,
  0xb985c82e21700b785b82da16c0b585a82d21680b385982ca1640b185882c21600afc57c2bd15d8ae45702b6,
  0xc7063431818b0c506243101870c306143081830c1060430017f0bf05f42f817b0bd05e42f01770bb05d42e8,
  0xd486a034e1a60d286903461a20d0868033e19e0ce867033619a0cc866032e1960ca86503261920c8864031e,
  0xe2070c3841c10e006fc37c1bd0de06ec3741b90dc06dc36c1b50da06cc3641b10d806bc35c1ad0d606ac354,
  0xef87783ba1dc0ed87683b21d80eb87583aa1d40e987483a21d00e7873839a1cc0e587283921c80e3871838a,
  0xfd07e43f01f70fb07d43e81f30f907c43e01ef0f707b43d81eb0f507a43d01e70f307943c81e30f107843c0,
  0x10a8850426212108884041e20e106883041620a104882040e206102881040620210088003fe1fe0fe87f03f6,
  0x116c8b445922c11588aa454229914089c44c225112088c444221110087c43c21d10e086c43421910c085c42c,
  0x11e88f247823b91d88ea47423991c88e247023791b88da46c23591a88d246823391988ca46423191888be45e,
  0x1254928493249124492048f247123491848b24512249104872431214908483241120490047f23f11f48f847b,
  0x130c9844bf25e92f09724b625a92c895e4ac25592a49504a5251928893e49e24e927093649a24c926092e496,
  0x13889c24e026f93789ba4db26d13649b04d726b13549a84d326913449a04cf26713349984cb264131c98a4c4,
  0x145ca285112871434a1450728214049fc4fd27d13e49f04f527a13c89e24f027713b49d84e927393989ca4e4,
  0x1590ac255e2ad9560aaa5522a79530a925462a19500a7a53a29b94d0a6253029694a8a4e5242909478a3651a,
  0x16c4b5c5ab2d41694b4459f2ce1664b2c5932c81634b145872c21604afc57b2bc15dcae85712b815b4ad4567,
  0x17fcbf85f92fb17ccbe05ed2f5179cbc85e22ef9770bb25d62e99740b9a5ca2e39710b825be2dd96e0b6e5b4,
  0x1940c9a64a3239910c8263e31d98e0c6a63231798b0c526263119880c3a61a30b9850c2260e3059820c0a602,
  0x1a7cd3869934b1a4cd2068d3451a1cd0c68334019f4cf467733a19c4cdc66b3341994cc465f32e1964cac653,
  0x1b18d8a6c43619b08d826c035f9af8d7a6bc35d9ae8d726b835b9ad8d6a6b43599ac8d626ae3559aa0d4a6a2,
  0x1bdcdec6f537a1bccde46f13781bbcddc6ed3761bacdd46e93741b9cdc86e136f1b6cdb06d53691b3cd986c9,
  0x1c64e3071638a9c4ce247103879c34e1870a3849c1ce0c7043819c08e0270037f9bf8dfa6fc37d9be8df26f8,
  0x1d68eac7523a71d28e8e7443a19d08e8274039f1cf4e7273739a1cc4e5c72b3941c94e4472138f9c78e3871b,
  0x1edcf6a7b33d89ebcf5a7ab3d39e8cf3e79b3cb9e4cf1e78b3c39e0cf0477e3bd1dd8ee476e3b51d98ec475e,
  0x1fdcfe87f13f71facfd07e53f11f7cfb87d93eb9f54fa67d13e79f34f967c93e39f14f867c13df9ef4f767b9,
  0x21990ba859428a13909084241ea0e106682e415a09904281e40da06102a812407a031012806401a000ffa7fa,
  0x24452068fd477a3a51c68dd46ba3451968c545fa2e51668ad453a26512e895449a24511e88243f21e90e486e,
  0x25dd2ec9754ba25cd2e49714b825bd2dc96d4b625ad29894b4a4a51928a935499a4c925e92e49624ad236915,
  0x26493229904c7a63931a98c4c5a6293129884c3a61930a9844c1a6093029804bfa5f92fa97c4bda5e92f2978,
  0x26f13769ba4dca6e136e9b64daa6d13669b24d8a6c13589a94d2a68933e99e4ce26693329984cba655328993,
  0x27bd3d49e34f027713b69da4eca7613ae9d64eaa7513a69d24e8a74139e9ca4e3a70d3849c14e026fd37c9bd,
  0x29754b8a5152828e946ea3351928c5460a2f51728b5458a2b51528a5450a275132895434a19501a7f93f29f4,
  0x2a8152aa9453f29ed4eea74538a9c14dea6e536a9b14d6a6a534a9a14cea66532a9914c6a62530a9814bea5e,
  0x2b7d5bcadd56e2b6d5b4ad956c2b5d598acb55aaac955caad5562aad554aa95542a9d54caa55522a8d544aa1,
  0x2cb965ab2c595aca564eb255922c8d644b215902c7d63ab1c58dac69632b1858babbd5d4ae7571ab895c2ae0,
  0x2d4d69cb4c5a52d2168cb445a12d05680b3f59f2cf5678b3b59d2ce5670b3759b2cd5668b335992cc5660b2f,
  0x2f0977ebbd5ddaee5770bb75db2ed5768bb35d92ec5760ba85d0ae69726b8c5c2adf96eeb705b4ad896b6b54,
  0x2fe57f0bf75fb2fd57e8bf35f92fc57e0bef5f72fb57d8beb5f52fa57d0be75f32f957b4bd75ea2f45792bc5,
  0x30a584cc236103075836c1960bb055826c11607b035816c09603b015806c02600b0017febfe5feaff17f6bfa,
  0x31b58d8c6b63531a58d0c6763331958c8c6363131858c0c5f62f31758b8c5b6283135898c4662130e5866c2e,
  0x326d932c9764ab24d922c8f646b22d912c87642b20d902c7f63eb1ed8f2c7763ab1d18e6c72638b1c18dec6e,
  0x33619aecd666ab3519a6cd2668b34199ecce666b331982cbc65cb2d9966cb0656b2a994eca5651b28593ec9d,
  0x3421a0ed06682b411a06d0267bb3c99e0cee67633a99d0ce6672b38d9c4ce1670337d9bccdd66e336d9b4cd9,
  0x34dda6cd2b6933491a44d2068f3471a34d1968c345da2cd1568a344da24d11688343da1cd0d686342da14d09,
  0x3549aa2d506a7b539a9ad4c6a5b529a92d486a3b519a8ad446a1b509a82d4069fb4f9a7ad3c69db4e9a72d38,
  0x3605b00d7f6bf35f5af8d7b6bd35e5af0d776bb35d5ae8d736b4358dac2d5f6aeb56dab2d576ab3555aa8d53,
  0x377db94dc56dcb6ddb56da96cfb669b30d966ca3649b20d8e6c6b631b16d8a6c4b621b0ed866c2b611b06d82,
  0x3851c26e12708b841c1ee0e706b831c16e0a704b821c0ee06702b811c06e02700b7a1bcede66f2378dbc2de0,
  0x3915c88e437213905c80e3571838b9c58e2a7143899c48e22710387dc3ce1d70e386dc34e1970c385dc2ce15,
  0x39d1cd2e647313981cbce5c72d3961caee5672ab951ca6e52728b941c9ee4e726b931c96e4a724b921c8ee46,
  0x3a49d20e8e7463a2dd14e897443a1dd0ce857423a0dd04e8174039fdcfce7d73e39edcf4e7973c39ddcece75,
  0x3da9eb8f507a2bcfde6cf2978ebc49e0eefe779bbc9de2ef0777bb99d8eec575a3ac9d60eae74eba61d2ce94,
  0x405a02b013809404602100f807403601900b80540260110078034016008fe27eabf29f56f8c7c3be11edaf6b,
  0x413a09903c81cc0de06b033818c0be05b02b814c09e04b023811408604101f80f407603901b80d4066031017,
  0x1054]⟩

/-- The variable that an override concerns, counted from the first one. -/
def gotoColumns : Packed := ⟨4180, 8, 44, #[
  0x141414141414148888888814aa56aaaa5656aaa3c05656405256aaaa14145656405256aaaa88aaaa15142a14,
  0x1414141414141414141414141414ccaa14141414141414cfcf14cfcbcb141414141414141414141414141414,
  0x4949494949494949494949494949148814490e141449c10e0e0e0e0ec4cfcfcbcfcfcbcfcfcbcfcfcbcfcfcb,
  0x494949494949494949494949494949494949494949494949494949494949494949494949494949494949ccaa,
  0x4949494949494949494949494949494949494949494949494949494949494949494949494949494949494949,
  0x4949494949494949494949494949494949494949494949494949494949494949494949494949494949494949,
  0x4949494949494949494949494949494949494949494949494949494949494949494949494949494949494949,
  0xac3bebe0ac6c5cdcd49cc49cccbb0ca49afb0ca49be0ac4c6c5c3bebe0ac6c5141414141414c0c0c1494949,
  0xabd1bd6565bcc2c2abd0d114c935bdbc51d05672afc3c2c2c9c1c0c0c1ae78030a1ac6c5c6c5c6c5c6c5c6c5,
  0xa5b142b2b2b2baeaf030a1ac2c2c2d156c2d156c2d156c9c0cdabc2abd1d056c2c9c0c178c4cd88516565cd,
  0x14145a5a145a5a5a5a5b885b5b14145a145a145a5a5a56565b5b14145a5a142b7d882f0a7d145b145a1a260a,
  0x7d7d14145a5b14141414141414141414141414141414141414145a141414145a5a145a145a5a5a5b145a5a5a,
  0x5b5b1a0a2b2b2b5a145a145a5a5b5a5a145a5a5a5a145a14145a5a5a5a5a5a14145a145a5a5a565614145a5a,
  0x56aa56aa56aa56aa56aa56bb57aa56aa56aa562a295b5b5b5b5b5b5b5b5b5b5b5b5b5b5b5b5b14145b5b355b,
  0x51a951a951a951a951a951a951aa56aa56aa56a951a951a951a951aa56aa56aa56aa56bb57aa56aa56aa56aa,
  0x4949498849ae5baab1b0a99aa99aa99aa99ac0ae5ba9a9a99aa951a951a951a951a951a951a951a951a951a9,
  0x8849884988498849884988498849884988498849884988498849884988498849884988498849884988498849,
  0x8849884988498849884988498849884988498849884988498849884988498849884988498849884988498849,
  0x88498849884988498849884988498849884988498849884988498849b1b0aa56884988498849884988498849,
  0x8849884988498849884988498849884988498849884988498849884988498849884988498849884988498849,
  0x8849884988498849884988498849884988498849884988498849884988498849884988498849884988498849,
  0x8849884988498849884988498849884988498849884988498849884988498849884988498849884988498849,
  0x8849884988498849884988498849884988498849884988498849884988498849884988498849884988498849,
  0xce95ce95c75351055105884951055105c753ce95c753ce95c753aa5688498849884988498849884988498849,
  0xae5bae5bae5bae5bae5bae5bae5bae5bae5bae5bae5bae5bae5bae5b0c0bae5bce95ce95ce95ab7bce95ab7b,
  0x3e3e3e3e3e3e3e3e3e3e3e3e3e3e3e3e3e3e3e3e3e3eae5b3ec0ae5b3e8181c0c1c0c0c08163625159585958,
  0xc0c07751353e3e3e3e3e3e3e3e3e3e3e3e3e3e3e3e3e3e3e3e3e3e3e3e3e3e3e3e3e3e3e3e3e3e3e3e3e3e3e,
  0xc4c2aac4c2aa564081c1c0c0c081636251c1c0c06362514a34307777513577513577513577c1c0c0775135c1,
  0x6251148163625156aa565656aa40aac4aa5640aa56565656aa565656565656aa40c2c2c2c2c2c2c288888888,
  0x5163625163625163625163625181636251636251636251636251816362516362516362516362516362518163,
  0x6251636251636251636251636251636251636251636251636251636251636251636251816362516362516362,
  0x6251636251636251816362516362518163625163625163625163625163625163625163625163625163625163,
  0x5163625163625163625163625163625163625163625163625163625163625163625163625163625163625163,
  0x6251636251636251636251636251636251636251636251636251636251636251816362516362516362516362,
  0x6251636251636251636251636251636251636251636251636251636251636251818063625163625163625163,
  0x3e88493e88493e88493e88493e63625163625163625163625163625163625163625163625163625163625163,
  0x88493e88493e88493e88493e88493e88493e88493e88493e88493e88493e88493e88493e88493e88493e8849,
  0x50451050488493e88493e88493e88493e88493e88493e88493e88493e88493e88493e88493e88493e88493e,
  0x3e3e3eae5b3e4a34304a3430bf2827bf28279b8c889b8c88aeab7baeab7b9b8c889b8c889b8c889b8c886551,
  0x493e88493e88493e88493e88493e88493e88493e88493e88493e3e3e3e3e3e3e3e3e3e3e3e3e3e3e3e3e3e3e,
  0x883e3e883e3e883e3e3e3e3e3e3e3e3e3e3e3e3e3e3e3e3e3e3e3e3e3e3e3e3e3e3e3e3e3eae5b3e88493e88,
  0x799979356a59586a595888493e88493e88493e88493e3e883e3e883e3e883e3e883e3e883e3e883e3e883e3e,
  0x62518163625181636251816362518163625181636251816362514a34304a343013131313c1c0c04a34301399,
  0x858887868588878685888786850d650d51057e6362517e636251816362517e63625181636251816362518163,
  0x385a385a385a385a385a385a385a385a3872705a388887868588878685888786858887868588878685888786,
  0xae5a38ae5a38ae5a38ae5a38ae5a385a385a385a385a385a385a385a385a385a385a385a385a385a385a385a,
  0x5a38ae5a38ae5a38ae5a38ae5a38ae5a38ae5a38ae5a38ae5a38ae5a38ae5a38ae5a38ae5a38ae5a38ae5a38,
  0x9d9c079f9e9d9c079f9e9d9c079f9e9d9c079d9c079f9e9d9c078180636251ae5a38ae5a38ae5a38ae5a38ae,
  0x605f4b615e32636251615e324a3430c0605f4b8180636251605f4b6f51096f65510c0b0981805f6362519f9e,
  0x5cc85cc85cc85cc85cbb818067b368645fc85c636251c1615e32c1615e326362518180605f4bc0605f4bc1c0,
  0xb2adac6701b3b2adac6701b3b2adac6701b3b2adac6701b3b2adac6701bb8180576362513eb3b2adac6701c8,
  0x30b3b2adac6701b3b2adac6701b3b2adac6701b3b2adac6701b3b2adac6701b3b2adac6701b3b2adac6701b3,
  0x6b3b2adac6701c0605f4bc1c0605f4b615e32b3b2adac6701b3b2adac67018180636251605f4b615e324a34,
  0x30206bb767f7c7a78757473693c3a37121106c1c0c0060302c0c1c006bb767f7c7a78757473693c3a371211,
  0x8d8d8d8d8d8d8d8d8daea5b8b7b5b4aba9a8a7a6a4a2a1a099989694b9b697938d8a89795b513507c0c1c006,
  0x89948d7997948d8d94948d8d8d8d8d8d8d8d8d8d8d8d8d8d8d8d8d8d8d8d8d8d8d8d8d8d8d8d8d8d8d8daf8d,
  0x5b078d9a8ba98d9a8b8d8d8d8d8d8d8d8d8d8d8d8d8d8d8d8d8d8d8dae895b078d9a8ba98d9a8ba99a8b8d8a,
  0x91908f8e9291908f8e9291908f8e9291908f8e8d5e8d9a8ba98d9a8b8d8d8d8d8d8d8d8d8d8d8d8d8dae8979,
  0x94b9b697938d8a895b0794a5b8b7b5b4aba9a8a7a6a4a2a1a0999896948d7951359291908f8e9291908f8e92,
  0xa5b8b7b5b4aba9a8a7a6a4a2a1a0999896948d7951358d9a8ba98d9a8b8d8d8d8d8d8d8d8d8d8d8d8d8d8dae,
  0x8ba98d9a8ba99a8b8d8a898d8d8d8d8d8d8d8d8d8d8d8d8d8d8d8d8d8d8d8d8dae94b9b697938d8a895b0794,
  0x8d8d8d8d8d8d8d8dae94b9b697938d8a895b0794a5b8b7b5b4aba9a8a7a6a4a2a1a0999896948d7951358d9a,
  0xb697938d8a895b0794a5b8b7b5b4aba9a8a7a6a4a2a1a0999896948d7951358d9a8ba98d9a8b8d8d8d8d8d8d,
  0x6c6b4f4e4d4c4846432e2d2c6645442b079a8d8b8a898d9a8ba98d9a8b8d8d8d8d8d8d8d8d8d8d8d8dae94b9,
  0x2c2d2cae5bae5b3e3e3e3e3e3eae5b3e3e3e3e3e3ebbaa5747423e4a343055545251413d3b3936332f766e6d,
  0x4a34302d079f9e9d9c072c142c142c142c142c142c142c2c2c2c2c2c2c2c2c2c2c2c2c2c2c2c2c2c2c2c2c2c,
  0x34306645442b4a34306645442b4a34306645442b4a34306645442b4a34306645442b4a34306645442b664544,
  0x5e5d6645444a34304a34306645442b4a34306645442b4a34306645442b4a34306645442b4a34306645442b4a,
  0x442b83823f83823f83823fbb8481805d83823fbb81805dc35d31c35d315d31815d5d315d5d815d5d5d5d5d5d,
  0x2c502c4b2c2c2c2c2c2c2c2c2c2c2c2c2c2c2c2c2c2c2c2c2c2c2c2c2c2c2c2c2c2c2caa474a34302d2c6645,
  0x309f9e9d9c079f9e9d9c07502c24502c24502c24502c242c142c142c142c142c142c14502c502c502c502c50,
  0x2c2c2c2c2caa474a34302d2c6645442bc24b2c2cc3c25d4b312c5d4b312c5e5d664544314a34306645444a34,
  0x2c502c502c502c502c502c502c502c502c502c502c4b2c2c2c2c2c2c2c2c2c2c2c2c2c2c2c2c2c2c2c2c2c2c,
  0x4b2cc24b2cc24b2cc24b2cc24b2cc24b2c502c2c142c142c142c142c142c14502c502c502c502c502c502c50,
  0x2c2c2c2c2c2c2c2c2c2c2c2c2c2c2c2c2c2c2c2c2c2c2c2caa474a34302d2c6645442b9f9e9d9c07c24b2cc2,
  0x2c2c2c2c2c2c2c2c2c2c2c2c2c2caa474a34302d2c6645442b9f9e9d9c072c142c142c142c142c142c147171,
  0x2c2c2c2c2c2caa474a34302d2c6645442b9f9e9d9c072c142c142c142c142c142c142c2c2c2c2c2c2c2c2c2c,
  0x9f9e9d9c072c142c142c142c142c142c142c2c2c2c2c2c2c2c2c2c2c2c2c2c2c2c2c2c2c2c2c2c2c2c2c2c2c,
  0x2c142c142c142c2c2c2c2c2c2c2c2c2c2c2c2c2c2c2c2c2c2c2c2c2ca3a32c2c2caa474a34302d2c6645442b,
  0x6645442b241211502caa50476645443e4a34302c2ba32cc35e5d664544314a34309f9e9d9c072c142c142c14,
  0x6645442b3e3eae5bc0c1c03e3ebb423e55545251413d3b3936332f2d2c6645442b07502c241211504a34302c,
  0x2c2c2c2c2c2c2c2c2c2c2c2c2c2c2c2c2c2c2c2c2c2c2caa47424a3430766e6d6c6b4f4e4d4c4846432e2d2c,
  0x2c2c2c2caa473e4a34302c6645442b9f9e9d9c072c142c142c142c142c142c14502c502c2c2c2c2c2c2c2c2c,
  0x34302c6645442b9f9e9d9c072c142c142c142c142c142c142c2c2c2c2c2c2c2c2c2c2c2c2c2c2c2c2c2c2c2c,
  0x9e9d9c072c142c142c142c142c142c142c2c2c2c2c2c2c2c2c2c2c2c2c2c2c2c2c2c2c2c2c2c2c2caa473e4a,
  0x72c06bb762c7f7c7a78757473693c3a37121106bb76bb762c06bb762c7f7c7a78757473693c3a371211069f,
  0x78d8d8d8dbb8d8481805d83823faea5b8b7b5b4aba9a8a7a6a4a2a1a099989694b9b697938d8a89795b5135,
  0x442b07aa473e4a34302c6645442baa473e4a34302c6645442b8d516645444a34302c8d5e5d516645444a3430,
  0x34302c6645442b97948d51502c8d516645444a34302caa51476645443e4a34302c2b07aa473e4a34302c6645,
  0x5b4b664544314a34302c07502c8daa5150476645443e4a34302c2b07aa473e4a34302c6645442b07aa473e4a,
  0xa9a8a7a6a4a2a1a099989694b9b697938d8a89795b5135079291908f8ec24b2cc3c2ae9291908f8e8d895e5d,
  0x302c6645442baea5b8b7b5b4aba9a8a7a6a4a2a1a099989694b9b697938d8a89795b513507aea5b8b7b5b4ab,
  0x2c6645442b0f2524232221201f1e1d1c1b191817161410080601aa51473e4a34302c6645442b07aa473e4a34,
  0xfba0fba0f0f0f0f0f0f0f0f0f0f0f0f0f0f0fbb760f0f0f0f0f0f0f0f0f0f0f0f0f0f0fbbaa50473e4a3430,
  0xc0605f4bba0fba0fc1c08180636251605f4b615e324a3430ba0f00ba0fba0fba0fba0fba0fba0fba0fba0fba]⟩

/-- The state that an override puts. -/
def gotoValue : Packed := ⟨4180, 13, 27, #[
  0x2df171b5ce9eba2090cd1c34251e84f4079a3591b34d2e6879de19ecc4c62530fd1b1714ca91ad8e986be0d5,
  0x531a9b54d9a5d52e29b14d7a55d2a69ad4d5a4dd2669034d4a3fd161fc0fb17d63e421bcd5f67ab2b9ab4c81,
  0x29b1506a82531a989502a808a9ceb94bca5d53fa9f94faa5c53e3b71db4a7b76747de3c54d3a68d33e9b74c8,
  0x51468a1431a183d09e68f339fcbcbde5d3f07953ca67d0f257924f71e2ef139e32a2150ea8653b2a15508a6d,
  0x498a2a93af930c9724a9253929493e49324291ec8ce46522b910c87063746c06fc8428f231806dc7ca77d453,
  0x4ad65692b19564a9654129c94dca6a53329894aca42513288943ca1250127b93bc9da4eb27293749b64d9265,
  0x4b9e5c72e2970cb825bf2dc96dcb6a5af2d39694b4659d2cd9664b2e5952c79634b0a5812bf95f4af65752b6,
  0x4ca264f3249904c7e63d31b98bcc4a61d30d9864c2660b304981cc025ff2fe97ecbf25f32f597a4bce5e12ec,
  0x4d3e69d34b9a3cd1a68b3429a0cd0267f33e99eccf267333899bccda66b3339994cc666132f9974cae655329,
  0x4de66f13759ba4dce6e136c9b5cdaa6cf3669b2cd926c73609afcd7a6bb35c9adcd6a6af3569aacd526a7350,
  0x4e6272f3969cace527273929c8ce4271f38e9c6ce2a7133889c3ce1a70b3849c1ce0a7033809bfcdf26f737a,
  0x44ca85912c895a3851bd0f346843bd1973bd8e6c73a7513a79d34e967493a39d14e8674139f9cf4e76739399,
  0x4f0e2d916ba74c5a62d13d190b52422b349f8aac52e919151a43d1c28dd145a2ec50e89914089f44f63b9133,
  0x2deeb2f1c08ef47763b71d78e947463a11cfac50ce225d429011c64e32518e8c6c61a30b17e8bec5da2eb4f6,
  0x4efe12b3ab917d732b91497a4b485c703213902d1ee8f5202a03c8006cd1fd8fe0c563eb1ef8f6c7a62831e3,
  0x4eee2d54e7019cffe7f93f89fbb3d27d93eb3124f927c6c809eccf627a50c49e842ca79b3c73cfcf0a7833c0,
  0x3de110287e43e03646bc3141ad47c68a8f691a48d1eb3a85c42d009467ef55a15bad05ce024a0d00880436d4,
  0x27bd1508a7453229463a31c18d22901c237fae35235f2cde7070227c1bcaa04f4a24111c316446222ca075b0,
  0x29bd4dca6b53529a54d0a6753329954c83221d029854c0a5f190a7d916e8b61900c7c72c0e41c7b7d41c69f1,
  0x1a8519e69f34ec2e4d3669a57e9a58d26691464c2b613909a3419a05a86a7953c29dd4eaa74539a9c94e2a70,
  0xc80628e6472a38d1c48e046e33c21b86a9354435e1aa8d68682354d4c6a53521a8e1970ca351234a1848d1,
  0x4482db111eb6b5a56d2368fb3bd9aacd3653b235916c5b620b0fc3de1e96078794f32bf30ecafa80d69d0034,
  0x1ef8f7a7bc3dd9ee8f7276142e98b4c5862b31518a4c505fc3421384a394462802e396d0cb16130d086076dd,
  0x5821ac8cd36b1b349ac4cd1aec575ebab5d4ae95746b9f5cf659b0a1964c275c82da971eb695632be69e6afb,
  0x59eecf5678b3c5976cb965ab2cd95ecad654b2a58dec6d634b19d8c6c6162eb175846c2160eb06d82ec15608,
  0x474deb4f84a31b76c00113aa2159b0cdd648407d8899795fc6a2c7368c6ddbb6dda4eb68b97b40da02cfd67d,
  0x492df8f24a7e24919f872457e14911f832437df48fdf6f2357d248a1f472277d14899f3b21d7c5c82e3a8f85,
  0x3ffe51affe9463ff6516ffc9453fde502ff493ebfce4f8ff093c3f9e4ccfd292cbf464b0fd092bbf26498fc8,
  0x4ba60772e881c4b920632d48164b0e02d2ae80acab60252a9808caa20212a7807ca9a0192a2801ca4a005291,
  0x3e3241d147a34511d0d3134a1bc1f66db0709a4417264305798c4152629053989c14261f04497b40fe5db03c,
  0x498dfaf25f7e9c969f9b2517e64941f9724e7e54935f8d2487e2c91df7f2407ddc8edf6d2307d2c8a5f3d21a,
  0x400251cffb9433fea50aff9941bfe2504ff693fbfd64fcff293d3fc64f2fef93a3fba4e6fec9383fa64d4fe6,
  0x4ae20352b380ccaca0312b080bcabe0292ab809caaa01b2a3804ca7a00f2978034a5a00b2948024a4e00328f,
  0x40ea5cd039972c0de5bd03696ec0d65b303496c40ce5ad03296ac0c25a102f967c0b659102b960c07a57701c,
  0x4c2e09d30a8264c1e0933018244bee08f2fa8234be208b2f7821cbca0852f1820cbbe0812ee81f4bae07b2ea,
  0x4186659060993417e64b05e991c17664505b98ec16a63905998d416263305698b415662b052988c14662104f,
  0x4d860f135983bcd620ed35283acd460e934d839cd320e534a838cd260df3448374d0e0db33b8364cea0d5334,
  0x422e73508a9c642267170859bf42126fb0839bbc20a6ed0819b942026e307f9b7c1fa6dd07c9b4c1ee6d1079,
  0x3d89e1cf0ea49d24e8eb4758a251723cf1e7ad25691d80ec087f43f9e1cf0e7b13d89d66eb3a7a1a2611939b,
  0x5532bf5549af9522dbd146fad8d6aeb57441acd440e207101880c3fa1fd0b39e7439a1cc3678ff3dedef6f62,
  0x3ae1d70eb8afb3c42b3eec1ab0db66abf6d5aae5a4aab768eaabd9aeaad666aaa591eaa7642aa8d886aa161c,
  0x50f6869421b61dadad996aeb5edb92bcd577b4f5055d5b6a69ded055d5b57700000027ae0000004ef677aae7,
  0x5252915484a41d1fa8ef462a2d515ea3f51da8dd45a9fd50ba77d3e69934bba565272901461a2ad0fa9dd4e1,
  0x277a0d30630316a9d54da97549ea4151ea8e546aa2f515a88543aa1b50aa7fd3f29a14c7a5cd2aa93b49a,
  0x11cd788bc45e23207903c81e1bb09273ab688d986023009ac4c1860b1d280000013bd19a8c8c60a000,
  0x4ff27f13ec9f24f42785640b0d57c2b293a99002795e831db2fd99e6778000000000239b1cd57ab05982cc16,
  0x2599b547e34b29f0a84f426552c4b4eb68488e1b26902ca0547b25898c45f940aa8111ea9612fc539a9cb3ff,
  0x3b59dacaee608b045822ecc7663b31d94eca7652fdd7eebf75f82fc17e0af05f6afb57daa9c575afa17d0be8,
  0x306ddc8ee47722fe57f2bf95fa2fd17e8bf35f9afcddc0ee07702bd182ac1560abb6ddb6edb79b3cd9e6ced6,
  0x307583ac1d776bbb5ddabfe5ff2ff97f8bfc5fe2fed7f6bfb5fd2fe97f4ee9774bba55eec1c60e3071836c1b,
  0x3cfde7ef3f79f3cf9e7cf3d79ebcf5e76f3b79db07d83ec1f77a3bd1de8bff5ffaffdde2ef1778b07983cc1e,
  0x3465dc6ee3771ac65a2cd1668b3b61db0ed8586b445a22d1178f3c79e3cf1d78ebc75e38f1c78e3c59e2cf16,
  0x34d1a66d33699b4b1a58d2c6933499a4cd23691b48da44d226913479a3cd1e697b4bda5ed2869434a1a32d19,
  0x3505a80d406a034fda7ed3f69f34f9a7cd3b69db4eda74d3a69d34e5a72d3969b34d9a6cd3569ab4d5a68d34,
  0x3be5df2ef977bbbdddeeeee7773bb9dd8eec7763b99dccee676ebb75dbaed3769bb4d5d4ec3761bb0da82d41,
  0x3451a26d13689ac1956cd0f687b43d7fabfd5feafe17f0bf85faafd57eabf25f92fc9e80f407a03c81e40f20,
  0x34a5a4ad25692b491a48d24690b485a42d206903481a3ad1d68eb46da36d1b68d3469a34d1768bb45da28d14,
  0x34f1a70d3869c34dda6ed3769934c9a64d31698b4c5a60d3069834b5a5ad2d695b4ada56d2a69534a9a52d29,
  0x52c9f7b23ea583eea4754ae7d448b694cfa79165295f43225a523e824494a37c6c8469d4d3d69eb4f5a78d3c,
  0x53ea097306a66406e56f4c3805ca8698300894ed2fdfd726fa5ebf5a4bd4b67eac97696afcf92b52cdf9d255,
  0x531201d2a4a61402a53f4c07f6c9c697cfea935d2f1fb1260a5bbf524b74b47e04906962fbc91e52bdf4d22a,
  0x514ab515a8a3a471e38f1c683d4d8a9a5062996d33a09b308a66c12a6054cb8174b2699501f95e531603b2b9,
  0x3b19d8cec6a25512a895428a1450a21cf09b9e43d906911e484fc27e13f093849c24de08f047823c05e02f01,
  0x3bf1df4ef5777bb9ddbcf807b9bd9debeefb77b3bc1dd0edfa6fb509dab209904c8262a11508a83b51da8ed4,
  0x3e7a436ee27c6483ddb2fe79343bcdf6f234775be76432ee17c5c829daef718fb3b2e1ff0fd87743aa1d10e4,
  0x3ea5cdee6c7343991cc0e5c84441960452697edc8ddf5721ea90b3bdf1f02b9623be1fcd2647793eda462eea,
  0x4095cccfdf7ef3985f5cfad72ebe49f22e5b7babdd1ce0e6e735b99dcc6e5f846c21a0c72c5810499dfb3236,
  0x48e1f3d22090fbe764472227c5c836418e6d833c199cd3024811b995fbafdc7313ec1f5ee5e7cabe51cd5026,
  0x3431a18d0c8b2c7ce24f166000000277adc06e0370225122e7d9c53dda36b157d2be94f45212909349f6d239,
  0x2ca9a5cd2e6972ca1a4ed27693ac71a30d1868c2bd97ecbf65fb2bc97debef5f7ac91a3ed1f68fb42da16d0b,
  0x43b61db0eda53c56a2b515a578afb97dcbee8ffbdf9efcf7e5762fa57d2be95903471a38d1c579afc57e2bf1,
  0x40a5fc8fe47f23f91fc6fe37f1bf8dfc4fe27f13f89f70fb87dc3ee1f36f9b7cdbe6e8f942e8e5d63ab1d3cf,
  0x223e904317a3b22368e60daa3055d237a85ba1e41a60d3069834c1a20d106883440aa05502a81540a6053029,
  0x544a18751134f543217550834e541d1954fd34153b472f4a84f8528115349e18f52541c54911c0523d3d5489,
  0x50edcfe68ba7ab9e4cef4e06eca78a8bcdd4435d12db86846a102392a5e8dda93435aa326a7a8c4332a288d3,
  0x53b1bd2387a4937913d14886f1a24690ade018cd1e1bbe0dca3937746cb4716eba1c28b2dd5189d13dba20d6,
  0x54b5d128d9a913a221935137439a82a1ee8685dd425d0a8cda833a0e1635057409a3a9f6e80852d3e1cfa8c6,
  0x17962feca3612add56e91773c89e40d906c78b6b24592118f5c2ad9967cb3d89c2c4d576d126893449d188df,
  0x375a867433a19bd51ea742d7a55065e9356fab7d0615daaae52dafa97d4bea6aa333d792bc88c39864c305e6,
  0x4eca7651b58da46ce3671b38d946ca364dbe6df36fa865432a195646b235919ea4f4e7a73d3572ab49bacdd6,
  0x477e3bf1df52c9728b94be45f22f9236b1b28d946ca7693b19d8cec6b25592ac9000000000000000027673b2,
  0x2ba55aa51c606b03581af6075f3af9d7cebe75f3af8bb05d82ea9754ba45d22e7973cb965cb49faba1553135,
  0x3cc5e62f2c7963cb1e58f2c7963c9de4ef27793bc9de4ef227913c89e44f227913c3de1ef0f787bc3de1f137,
  0x3c8de46f23791bc8de24f127893c49e24f12766bb35d9aecd766bb35f26f937c9be4df26f93798bcc5e62f31,
  0x50ce867432a1950cab23591ac8bcc9e64f327993cc9e64f2d796bcb5e5af2d796bca1e50f287943ca1e50f23,
  0x46ce36b3b39d94eca7651b28d946c9d7cebe75f3af9d7cebe791bc8de46f23791bc8d5dead86093049825433,
  0x4734694f481978cb465a32d1968cb465a32d1968cb465a32d1968cb4668f227913c89e44f2279146d23671b3,
  0x458ea8b0a088d424211d08e847423a11d08e847423a11d08e847423a11d091000000277a32e892505e77b1ce,
  0x2e0d706b835c1ae0d706b835c1ae0d706b825c0ae05702b81607ade56f0b77ac02dfeaff1bf8e6c73a77b08f,
  0x3069832c175ceb05172aecf7be4701d64c0e5c3baf23131818bcc5c2298ed0a112e11706b835c1ae0d706b83,
  0x5031718b8b8f0c68a32f18a8c145ea2e4f30795bc99e42f0d61045822bf15e5d1c5762b91585d12e862af156,
  0x2e75d3b14a753d5759f56d0a02306173eb9f5f3b04d728b945f3d126890d0567231657194086db4525ef540c,
  0x5565b1cdb6b455025d3eb9f5cfb6e5d38b945ca46a63511a58d2468e342ea65c3ba89746ba25d0ba85d40e9e,
  0x47823c11e08f04781d7f44078cae7d73ee9b78a2e51728f1f5d1ae89742f1b78d3c6173af155cabce5e70f9a,
  0x1e06d1348ea47523a91d48e9f74fba7dd3ee9f74f9a7cd3e69f34f9a7b53da9ed4f6a7b53c49e24f127893c4,
  0x1e10ecc78338f57b677479e3c39e18f0c7863c31e18f0c7863c31e18f0c7863c31e18f0c7863c31e7278a71d,
  0x5a84fd47e93f49cacf967ca3e520450208064029fe4ff07e63f29f48fa279b3cb9e58ed35473c29e10f08784,
  0x32a98fcc01b0bcf5995aca16503281940ca06503281940ca06503281940ca06503281940ca0655cf6d846c9c,
  0x43da1e10e9662b311998ccb664b321980cbf65d32e594cca56cd3665b30fb27c0bda2a9ec9f64f327993cc9e,
  0x184cc26613309984cc26613309984cc433e72f7983ad52cc36613309906cb865bb2dd906f0378133b1930c22,
  0x197cc9e64e31e18ecc4061caa91848c226113089844c366102f858f67ca62330a184cc26613309984cc26613,
  0x3541aa0d506a83541aa0d506a835727deccd6a65ae0ca465132897d8c6c63531a99c0cde5ff2ff19b4cd8660,
  0x35b1ad6d5b6abb559a8f5556a7b539a9cd4e6a735199e4c88b314fb5abcd516a83541aa0d506a83541aa0d50,
  0x19d8cec5da52993449a24d1268b9e213cda084eb52595ed756ba35d19dad696b435a1af8d7b6bcb5e1ae2d70,
  0x17ead475e1af0d784cea67533a99d4cea67533a99d4cea67533a99d8cec67633b19d8cec67633b19d8cec676,
  0x2829450a252f4a89eac111daa5c3aed816bab59daaebc16a3a34bdded816b3b55daeabc169a8ca08a0a38bd4,
  0x1a4943868a5079a1941667c513288d444a2150ea86d434a1950c285d42ca1550a284d424a11508283941aa0c,
  0x16e0b7140ba05d02cb625b12d896c4a0a505282ba95d4aea52f4ba3970ab6659f2cf5bb8a2034aa87cd28a1e,
  0x16f2d4f6a7b5396ecb765bb2ddda7ed3f69f2dd16e8b745baaf457a2bd05b92dc96e4b73579abcd5e4b705b8,
  0x5b12d896c42df96fcb7e5bfb5f5afad7c5be2df16f8b7d6b7b5bdadcb7a5bd2de96f6d5f6afb5796f0b785bc,
  0x3e25f0ef867b73db5b82f5b2821410a08eaa7553aaadcb6e5b729704b825c12e0db36d9b6cd2e01700b805c0,
  0x37082541137a6c6de36f1b727f04b422af5c8ddc4a63713b98b3ceda3e1456097bdbe3b543a7c43dc0258f99,
  0x213d2829484a3a1e0de01f65e7db7adbd6de2f49bc8a805402a015027ab3d59eaced676b3b5a2dd16e8b6104,
  0x218a3b293d3799bc4dd66ea374a5dcdca6e33711b84dc06df36f1b74db86db36d1cc4db26d836b1b54da86d2,
  0x4d6b5a8720999ba0d2a6e734a1b98d246e43451b5cd0c6d333e57ed23f5f8486d6d91255b344556890d159e,
  0x467a33d19e2a49524a92f567ab3d59946c255baadd1d28b855b32cf967addcb6e24d02736d749984deb74896,
  0x5a6cbd277f2b495a4ad25699dc4edd20684e8ddc6ea2531b98dc21163e0000a2b2505b831da2bc15e0af143a,
  0x1ed92a47b23d81ebcf5c7ad3d61eacf547a93d41e9d2a07a63d29e8cf1a78b3c49e2136077d0dcaf2ad3769b,
  0x56e11295b7449d78ce5f6984985a5d25d696496da512575de45ed72d1595ca455d6e512b1d94d89df8fd67b7,
  0x2196c707343da9a54f686943d99a48f6268a3d21a18f1467caeea2f2bb88bbaeda2eabb48b9aeca2e2b928aa,
  0x15e4af2b855b32cf967ae8b9ff4ff524b3fb9fd24927e53f1491cfaa7d29229ef4f752433ca9e4a42e3cd1e5,
  0x20cd062830417a0b905a82c415a0a9052828413a09904882341120810742425ecdb9edcf6e72f4a0f0af2579,
  0x16dcb6eb855b32cf967addc41b1a5506a69441a1a4906468a4129a1904267c90944d90b283d41da0e5070837,
  0x27313969ca4e4a72138e9c64e2a7113869c24e026fd37c9bc4eca7ed3ac28c5f05bb2dd96ec2f4a760b6e5b7,
  0x16d0b685b42da2e156ccb3e59eba393a46954e89a513a06924e71a293826864de99f13ae9d54ea274d39e9cd,
  0x262d3149894c4261d30c9854c2260d3049804bfa5f92f8a2a514a8914109df4d9096d7bd6e9b74dba4bd29b4,
  0x2cf5d1c99234aa644d289903492638d1498134325f4cf8a30517a6d545aa2c515a6cd32a9944c9a63d31a98c,
  0x267d33c99d4ce26693329984cb56eeb5ca094f026d84e8bdfb75dbaedd65e94dc16d4b6a5b52daae156ccb3e,
  0x3a493586954d59a513546924d41a293366864cb99f13729b74d7a6b935a9a94d3a69934a9a44d1a6893429a0,
  0x55c97945462a3151abc0f4c7a63d30dec5690002782376dc189495e8af457a8dc503681b40d5c2ad9967cb3d,
  0x19cd46253729b94dca6edbcb7924d8260130098564e3ab1d58eaa150ac85642b2159025612b095d848e641b9,
  0x1514a8a5452a2db1edc14697bbcef639d1cdb63db8224ca8fab420fd07e83f41fa0fd07e83f41fa0fd07e83f,
  0x1bf10966fa37c9bdcdea1905be9d5aad3569ab4a105082841420a105082841420a105082841420a104de86f8,
  0x5078eb077b38d1c50e268713b69db0ed676a3871c30e1670a3849c20e0e7063829c10e068673811c00dfc6fd,
  0x5b86dc36e13a99578abc55e2af2e156ccb3e59eba08e24880388a1fce2087d386a1a8dfe86437da13283e759,
  0x1d48e9e74e3a69d24e8e7463a29d10e867423a09d00e7e73e39e9cf0e7473939c1cd8ea88093a888457c56e0,
  0x2f86d8f6c8b645b212505812c09604b02b855b32cf967ae823a62200e9687f3a521f4e9086a39da190e6e84c,
  0x2415098929493a48123c91d48ca45d22c91548a244d224911488243d21c90c485242120e906482252924c1dd,
  0xcb465a32d1968cb465a32d1968cb465a32d19bae156ccb3e59eba4123888048da1fd23487d48c21a9212864,
  0x25792ed08e847423a11d08e847423a11d08e847423a11d08e85ac4152991054a625146d2f5106924dc65a32d,
  0x2e0d706b835c1ae0d706b835c1ae0d706b835c12e05702b815c0b03d6f2b785bbbd850c357f6e9a5d6129116,
  0x16c0b605b0752ba95d4ae8d8c446022f116e08244e5b8412a089bd3636f1b78dbd0fd708b835c1ae0d706b83,
  0x16dcb6e5b712daf7ad676e9b74dba53045b42da16d0b68f2147513449a24d1af0d786bc2a107bc8000000a06,
  0x5a69eacf567ab213ca80dd313a2f7ed756ebb75dbad3385b52da96d4b6ae911462f82d816ecb765bb13845b7,
  0x5b9d04c5792bc95e4af31497bd47851df59e4313c84d5a5402a01502dbd6deb6f1b603ec8615e79524a92549,
  0x1518a8c546af03d31e98f4c39915a5d141b95e55782d3769bb4d9e94ad25692b495a5d142425ecdaaedcf6e7,
  0x47823c11e08f04781d7ecfa7bb44a62373b72bc15e0af11b88cf467a33c90374cd5c8ded1780dca3bec24bca,
  0x3281940ca064fb27993cc9e64f33b1930c22611c3950356a1749cf6a7b53da9ed4f6a3751b9422c6ee77155e,
  0x2e05702b815c0bc356f2b785bbbd84f2557f73f5521942ca06503281940ca06503281940ca06503281940ca0,
  0x5b86dc36e139e1578abc55e2af50fd708b835c1ae0d706b835c1ae0d706b835c1ae0d706b835c1ae0d706b82,
  0xcb065832c1960cb065832c1960cb065832c0eea5bd7c36c7b645b22d9090a2c09604b0258174788457c56e0,
  0xd0280c33c19cbcd43214145bed5a2ad3569ab49d54a8a5452a29516ae632c1960cb065832c1960cb065832c,
  0xe907463a21d08e687323981c58dd46ba3411a00c48678eae0690e907463a21d08e687323981c58dd46ba341,
  0x55c2ae000f007d59c03601b00f007803201900b805c02601300a8054022011008004001a00d005802c012009,
  0x27673b29d94ec802e017009804e36b1b4572ab49b7cdbe42146ce3671b38d946ca365570]⟩

/-- Sets of tokens. -/
def tokenSet : Packed := ⟨549, 166, 2, #[
  0x100000000000000400000000000000000000000003bffdfffffffffce9fffffffffffffffffffffffff,
  0x200000000000000000000000000000000000000002800617ffdffcc21fffffff800077b2ff6ffd7efb,
  0xa0000400000000000ffb1fe000042000100004840280001000000000003fec7f800010000040001210,
  0x191ffffff3087f204f400001bdcffcfff5f7ac0000647fffffcc21fc813d000006f73ff3ffdfdeb,
  0x300181fff7ff3087f004e0000019ccbfcbff5f3ac0000607ffdffcc21fc013800000673eff2ffd7ceb,
  0x181fff7ff3087f004e0000019cebfcbff5b3ac0000607ffdffcc21fc0138000006732ff3ffd6ceb,
  0x181fff7ff3087f004e0000019ccbfcbff5b3ac0800607ffdffcc21fc0138000006732ff2ffd6ceb,
  0x80000400000000000ffb1fe00004200010000484000000000000000000000000000000080000000000,
  0x181fff7ff3087f004e0000019cc3fcbef5332808000000000000000000000000000020000402021,
  0x20002800617ffdffcc21fffffff800077b2ff6ffd76fb,
  0x11ffffff3087f204f410001ffc400d0a1f72800000000000000000000000000000800000000000,
  0x80002400080000818fffffefffe4384037080ec400000043fffffcc21fc813d000006f710034287dca,
  0x1fff7ff3087f004e0100019ec000d0a13328200009000000002063fffffbfff90e100dc203b10,
  0x1fff7ff3087f004e0100019cc00090a133280000007ffdffcc21fc01380400067300034284cca,
  0x80003400080000818fffffe00004384037080e8402c0005000200002063fffff800010a101cc603a10,
  0x80003400000000818fffffe00004384037080e84020100d000000002063fffff800010e100dc203a10,
  0x80000000000000100000000000000000000000000000000000000,
  0x80002400000000818fffffe00004384037080e84000000000000000000001000000000000000000000,
  0x80002400000000818fffebe00004304037080e8402000090000000020637ffaf800010c100dc202a10,
  0x40020000d000000002063fffff800010c100dc203a10,
  0x800000000000000000000000000000000000000000000000003fff80000000000000,
  0x100008000000020414000006384005000ec002c0001000000002063fffff800010a001cc603a10,
  0x100008000000020014000006384004000ec000c00040002000000000105000000021000c233900,
  0x40100008000000020014000002184004000ec0000000400020000000080050000008e10014003b00,
  0x100008000000020014000002184004000ec0000000400020000000080050000008e10010003b00,
  0x100008000000020014000002104004000ec0000000000020000000080000000008410010003b00,
  0x3000100000000000000014000004280002000e4000c000400000000000001050000010a0000c003900,
  0x4200010000000000000041400000428000300060000c000400000000000000050000000a0000c003900,
  0x3000100000000000000014000000280002000e4000c100400000000000000050000000200008003900,
  0x3000100000000000000014000000080002000e4000c00040000000000000005000000020000c003900,
  0x3000100000000000000014000000000002000e4000c000000000000000000000000000000008003900,
  0x42000100000000000000014000000280003000600108000400000000000000050000010a00008001800,
  0x42000100000000000000014000000280002000600108100400000000000000050000000200008001800,
  0x42000000000000000000000000000000002000600108000400000000000000050000000200008001800,
  0x800100000000000000014000000180000000680108000400000000000000050000000000008001800,
  0x80002400080000818fffebe00000004037080e040200009000200002063fffaf8000108100dc200810,
  0x3000000000000000000000000000200002000e0000c000000000000000000000000000010008003800,
  0x4200000000000000000000000000000400200060000c000400000000000001050000000200008003900,
  0x400000000000c000000000000000000000000000000008003800,
  0x3000000000000000000000000000010002400200009000000002063fffaf8000108100dc203810,
  0x800000000000000000000000000000000000200000000000000000000000000000008010000000800,
  0x200000000000000000000000000000000600000000400000000000000000000000000000000000,
  0x400002000000000000000000000000000000000001800,
  0x181fff7ff3087f004e0000019ccbfcbff593ac02000400000000000000000000000000000000800,
  0xb0000400000000818fffffe00004280073180c8400c000000000000000000000000000000008003000,
  0x3000000008000000000400000000004003080c4002c0005000000002063fffff800010a000cc203210,
  0xfff78030060000000000088800000201168000000fffde00c01800000000002220000008045a,
  0x300000000000000000000000000000000208000000c000000000000000000000000000010008203100,
  0x200000000000000000000000000000000200040000c000000000000000000000000000010008200000,
  0x80000400000000818fffffe000042800110800840200001000000000063fffff800010a00044200210,
  0x2000000000200000000000000000000000000000000000004000000,
  0x8000000000000000000104004000c400000000000200000000000000000004100d0003100,
  0x20000000000000080000000000000000000000000000100c8001100,
  0x4004000400000000000020000000000000000000010010001100,
  0x1000000004400000000000000000000000000000000100d0000100,
  0x42000000000000000000000000000000002000400000000000000000000000000000000000010000000,
  0x2000000000000000000000000000000000000200009000000002063fffff800010e100dc203210,
  0xa0000400000000818fffffe00004280033080c840280001000000002063fffffbfff90a000cc203310,
  0xa0001400000000818fffffe00004280033080c840281005000000002063fffff800010a000cc203210,
  0xa0001400000000818fffffe00004200033080c840280001000000002063fffaf8000108000cc203210,
  0x2000000000000000000000000000000022000c00000000400000000000080050000000200000001000,
  0x8000000000000000000100004000c00000000000020000000000000000000410010003000,
  0x300000000000000000000000000000003fff88000000000000,
  0x200003fff7c030060000600000088800020209168200001000000002063fffff800010a000c4203210,
  0x200000000000000000000000000000000200c0000000000fffdf00c01800018000002220000808245a,
  0x2000000000000000000000000000000002000000008000000000000000000000000000000008008000,
  0xa0000400000000818fffffe00004280013080c84000000000000000000000000000000000000030000,
  0x100000000000000014000000180000000080000000400000000000080050000008610010003900,
  0xa0000400000000818fffffe000042800130800840200001000000002063fffff800010a10054201210,
  0x80000400000000818fffffe00004384013080c84000000400020000000000050000000600000001000,
  0xa0000400000000818fffffe00004280033080484000000000000000000000000000000410000003000,
  0x80000400000000818fffffe000042840110800840200009000000002063fffff800010a00044201a10,
  0x80000400000000818fffffe000042800310800840200001000000002063fffff800010e00044200210,
  0x1000000000002000617ffdffcc21fffffff800077b2ff6ffd7efb,
  0x181fff7ff3087f004e0000019ccbfcbef5b3ac0400607ffdffcc21fc0138000006732ff2ffd7ceb,
  0x181fff7ff3087f004e0000019ccbfc9ff5b3ac00000000000000000000000000000000000400000,
  0x1fff7bf3087f004e0100019cc00090a13328200009000200002063fffffbfff90e1005c203b10,
  0x400000000000000000000001000000000000000000000000000000,
  0x200008000000000000000000104024000200000000040000000000000000000000000000000000,
  0x80000c000400000000000000000000000000008000000,
  0x100000000000000000000000100000000400000000800020000000000000000000000018002800,
  0x4002000000000000000000000000000000000000400000003000,
  0x100008000000000000000000000000000000000000800000000000000000000000010098002800,
  0x200000000000000000000000104024000a000280001000000002063fffffbfff90a0004c200310,
  0x200008000000000000000000004026000a00000000000000000000000000000000000040000000,
  0x20000000000000400000000000000000000000000000001000,
  0x80003400000000818ffbffe00004184037080e84000000000000000000000000000000000008001000,
  0x1000080000000000000000000000040000000200009000000002063fffff800010e1004c203a10,
  0x3fff7c03006000400000008a800010201168200009000000002063fffff800010e100d8203a10,
  0x3000100000000000000014000000080002000c00000000400020000000080050000000600010003000,
  0x800000000000000000001000000000800004000000,
  0x3000000008000000000000000000004002000c00000000000020000000000000000000000000000000,
  0x80000400000000018fffffe000042800100800840280001000000002063fffff800010a000c8203210,
  0x80003400000000818ffbffe00004184036080e8400000007ffdffcc21fc00380400067300020284cca,
  0x80003400000000818fffffe00004184036080e84000000000000000000001000000000000004000000,
  0x80003400000000818ffffbe00004384037080e84020000d000000002063fffff8000106100dc203a10,
  0x80002400000000818fffffe00004384017080e84000000000000000000000010000000000000000000,
  0xa0001400000000818ffbffe00004080032080c84000000000000000000080050000000200000001000,
  0x80000400000000818ffbffe00004384012080c840240001000000002063fffff800010a001cc603210,
  0xa0001400000000818fffffe00004080032080c840280001000000002063fefff800010a00048203210,
  0x80000400000000818fffffe00004384017080c840280005000000002063fefff8000102000cc203210,
  0x200000000000000000000000104004000200000000000000002000000000000000000000000000,
  0x104004000c00008000000000000000000000000000000080000000,
  0x2000000000000000000000000000040002000280001000000002063fefff800010a000c8201210,
  0x80000400000000818ffbffe000042840140804840280005000000002063fffff8000102000cc203210,
  0xa0000400000000818dffebe000042000330808840280005000000002063fffef800010a000cc203210,
  0x14000000080000000c00000000800000000000000000000000410090000800,
  0x80002400000000818ffbffe00004280010080684000000000000000000000000000000000000003000,
  0x2000000000000000000000001000220002000200001000000002063fffaf800010810044201210,
  0x80000400000000818fffffe0000428001308048400000607ffdffcc019c0000000006712fe239d6ceb,
  0x800000000000000000010000000000000c000000000000000000000000000000008002000,
  0x100000000400000000000020000000000000000000000000000100,
  0x104020000000000000000020000000000000000000000010000000,
  0x20014000000080000000000000000000000000000080000000000000000000000,
  0x80000400000000818fffffe00004284031080084000000000000000000000050000000200010002000,
  0x20000800000000800000000000000000000000000018002800,
  0x181fff7ff3086700000000019c4bf88e75b3ac280001000000002063fefff800010a00048200210,
  0x200000000000000000000000100022000a000280001000000000063fffff800010a0004c201210,
  0x4004000000000000000000000000000050000000600000001000,
  0x80000400000000818ffbffe00004284010080084000000000020000000000000000000000010002000,
  0x80000400000000818ffbffe000042800300800840200001000000002063fefff800010e00040200210,
  0x104000000000000000000000000200000000000000410098002000,
  0x100000000000000000000020000000000000000000010010002000,
  0x30000000000000000000000000000000020000000000004fffff00c018000050000022e0000008145a,
  0x20000000200001000000002063fefff800010a00040200210,
  0x3fff7c0300600000000000888000002011680c0000c0000000000000000000000000008200100,
  0x100008000000020414000002184004000ec002800617ffdffcc21ff7efaf80007712ff6ffd44fb,
  0x100000000000020010000002184004000e40000000400020000000080050000008610010003900,
  0x2100004000640000000000000000000080050000008610010003900,
  0x3000100000000000000010000000080002000e40000000000000000000080000000000210000002000,
  0x800185fff7ff3087fffbebe0001dc4bfd9ff59bec0c000000000000000000050000000200008003900,
  0x20000000002004004000a40108000400000000000001050000000200008001800,
  0x42000100000000000000010000000080002000600000000000020000000080000000000210000002200,
  0x80002400000000818ffbebe00004204037080e04108000000000000000000050000000200008001800,
  0x4000000000000000000080000000008010010002b00,
  0x8000000000000000000000000080000000000000000000000000000000000000000200000,
  0x80000000000000000000000000000000000000000000000008000000000000000200000000002,
  0xfff7800000000000000008800000020112000000000000000000000000000000000000000080,
  0x1000000000000000000000000000000000000800000000000000000000000000000000000010001000,
  0x100000000000000010000000180000000080000000000000000000000000000000400010001000,
  0x104002000800000000000000000000000050000000600000000200,
  0xa0000400000000818ffbffe00004280012080484000000000020000000001000000000010004000000,
  0x100000000000000000000000000004000000000000000020000000000000000000010010001000,
  0x4000000400000000000000000000000050000000200000000000,
  0x80000000200000000021040040006c0000000000000000000001000000010000004000000,
  0x80000000000000000040000000000000000060002800617ffdffcc21fffefff80007732ff6ffd66fb,
  0x2000004000000000000000000000000000000008003000,
  0x2c00000000000000000000000000000000000000000200,
  0x200000000000000000000000000000000200000000000020000000001000000000000004000000,
  0x100000000000000000000000004000000000000000000000000000080000000000000000001000,
  0x2000000000000000000020000000003fffe00c01800100000002220000408045a,
  0x20000000000000000000000000010000000000000680000000000000000000000000,
  0x8000000000000000000004004000000010000000000000600000000000000000000000000,
  0x2400000000000000000000000000000000000020000000,
  0xffff803006000400000008884001020116800000000000000000000000000000010000000100,
  0x100008000000000010000000180000000400000000000000000000000000000000000000100000,
  0x40000800000000020000000000050000000600000001000,
  0x1000000000000000000000000000000000000e00000000000000000000000000000000000000000040,
  0x181fff7ff3087f004e0000019ccbf8bef5b3ac00000000000000000000000000000010008201100,
  0x400000000000000000000000000000000000000008000000000000000000000000000,
  0x400000000000000000000000000000000000000008,
  0x1000000000000000000000000000000000000000000000000000400,
  0x40000000000000000000020000000000000000000000000000,
  0x200000000000000000000000000000000000000010000000000000000000000000000,
  0x8000000000000000000000000004000000000000000000000000000,
  0x1000000000000000000000000000000000000010000000000000000000000000000000000,
  0x400000000000000000000000000020600138000000020000c200000,
  0x100000000000000000000200009000000000063fefff8000004100d8203a10,
  0x80002400000000818dffebe000000000330800040200009000000002063fffaf800010e100dc203a10,
  0x80000400000000818fffebe00000004011080484000000000020000000000000000008410010002b00,
  0x80000400000000818fffebe00000000011080084000000000020000000000000000008400000000900,
  0xa0000400000000018ffbffe00000000032080c84000000000000000000000000000008010010002900,
  0xa0000400000000818fffebe00004280033080c84000000000020000000000000000000010000001100,
  0x240000000000020000000000000000000010000001000,
  0x80000400000000818fffffe00004280003080484004000000000000000000000000000000000002100,
  0x200000000000000000000000104006000200008000000000000000000000000000010000000000,
  0x3fff7c03006000060000008880000020916800000000000000000000050000000200000002000,
  0x60000fc00000000200000000000000000000000000000000000040000000000000000000000000002,
  0x20000000002184004000e40000400000000000000000000000000000000000000,
  0x20000000000000000000600000000000000000000080000000000000000001100,
  0x3000000000000000000000000000080002000e40000000000000000000080000000008000010002900,
  0x10000000000000000000000000000108000000000000000000000000000200008001800,
  0x4000000000000000000000000000000000000000008000000000000000000000000000000000000,
  0x1000000000000000000000000000000000000000020000000000000000000000000000000000000,
  0x100002000c000200001000000002063fefff800000410048203210,
  0x104002000c00000000000000000000000000000000010008003000,
  0x18000000000000000000000000200001000000002003fefff800000410048203210,
  0x2000000000000000000000200001000000002003fe7ff800000410048203210,
  0x60000000000000000000000000000000000000000600000000000000000010,
  0xb080000000000001000000000000000000000000000000e000000000000000000,
  0x800000000000000000000000000000000000003c000000000000000000000,
  0x400000000000000000000000000000000000000000800000000000000000,
  0x80000000000000800ffbffe00000104012000c04000000100000000000000000000000000000000000,
  0x200004000280001000000002063fefff800000000048203210,
  0xa0000400000000800ff9ffe00000000012080c840280001000000002003fefff800000000048203210,
  0xa0000400000000800ff9ffe000000000320804840280000000000002003fefff800000000048003010,
  0x80000400000000800ff9ffe000000040140804840280000000000002003fe7ff8000000000c8001010,
  0x80002400000000800ff9ffe000000000100806840200000000000002003fe7ff800000010050001010,
  0xa0000400000000800ff9ffe000000000120800840200008000000002003fe7ff800000000040001810,
  0x80000400000000800ff9ffe000001000100800840200001000000002003fe7ff800000010040200210,
  0x80000000000000800ff9ffe000000000300000040200001000000002003fe7ff8000000000c0200210,
  0x80000000000000000001800000004000200001000000002003fe7ff800000000040200210,
  0x100000000000000000000000000010000000000000080000000000000000000000000,
  0x2000000000000000000000000010000000000000000000000000000000000000000,
  0x8800000000000000010000000000000000000000000,
  0x300000000000000000000000000000000003ffde00000000000000002200000008044a,
  0x3000000000000000000000000000004002000c00008000000000000000000000000000010008201100,
  0x800000000000000000000018000000000000000000000000000000,
  0x101000000000000000000800000000000000000000400000000000000000000000000000000,
  0x8000000000400000000004001000c40000000000404000000000000000000000000000000,
  0x100800000000000000000000000000000000000000002000000000000000000000000000000,
  0x200000000800000000000000000000400208044000800000002000000000100000000001000c201100,
  0x8000000000000000000000000000000000000004040,
  0x8000000000000000000000000000000000000000000000004000,
  0x40000000000000000000000000000000000000000000000000000000000000000000000600000000200,
  0x300000000000000000000000000000000000000000a0000000000000000000000000,
  0x2008280001000000002063fffff80001080004c200210,
  0x10000000080000000003ffdffcc21fc01380400067300024284cca,
  0x818004e000000008000108000000000003ffdffcc019c00000400067100020084cca,
  0x2000000000000000000000000000000022000400008000000000000000000000000000000008003000,
  0x104000000800000000000000000018000000000000000000000002,
  0x6000000000000100000000000800000000000000018000000000000010000000002,
  0x10400200000000c000400000000000000000000000000008003000,
  0x100002000800000000000000000000000000000000010008002000,
  0x2000000000000000000000000000000022000000008000000000000000000000000000000008002000,
  0x2000010008000000000400000000004003080440000000080000000000000000000000000000000000,
  0x800000000040000000000400308044000c00000002000000000100000000001000c003000,
  0x8000000000000000002100004000a0000c00000002000000000100000000001000c000000,
  0xe000000000000000000000000000000000000003ffc6000000000000000022000000080448,
  0x40000000000000000000000000000000000000200000000000000410008003000,
  0x80000000000000004002000000020000000000000000000000000000000000000000,
  0x2000000000000080000000000000000002000c00000000000000000200000000000000010008002000,
  0x2000000000000080000000000000000022000400000000000000000200000000000000000000002000,
  0x80000000000000004000000000000000000000000200000000000000010010001000,
  0x100000000000000000000000800000000200000000000000000000001800,
  0x80000000000000100000000000008000000000000200000000000000000008000000,
  0x10000000000000000000000000000000000000000000000200000000000000000080000000,
  0x2000000000000000000000000000200080000000003f84000000000000000002000000008044a,
  0x100000000000000000000000000000000000000000000003f840000000000000000000000000080442,
  0x20000000000000000000000000000000000000000040000,
  0x400000000000000000000000000000000000000000000800000000000000000000000000000000,
  0x8000000000000000000000000000800000002000000000000000000000000000000000000,
  0xa0004400000000818fffffefffe62800130800c40280001000000002063fffffbfff98a0004c200310,
  0x3c100000000000000000000000000000000003f80000000000000000002000000008044a,
  0x80000000000000000000000000000000000000000080000000000000000000000000000000000000,
  0x80000400000000018ffb8be00004304012080c80000040000000000000000000000000000000000000,
  0x200000000000000000000000000000000400000000000000000000000000000000000008002000,
  0xfff78000000000000000000000000200120200001000000000063fee2f800010800040200200,
  0x40000000000000000000000000001c00180000000000000204000,
  0x80000000000000000000000000000000000000000000000040000000000000,
  0x2000000000000000000000000000000000000000007c4000000000000000000000000000,
  0x1000000000000200140000001800040004000200001000200000003fec7fbfff98c10050003310,
  0xfff78000000000000000000000000000120200001000000000003fec7f800010800040000200,
  0x3000100000000000000014000000000002000c00000000000020000000080000000000400000000000,
  0x1000000000000200140000000800040004000200001000000000003fec7f800010c10048003200,
  0x80000400000000000ffb1fe000042040100000800200001000000000003fec7f800010810050001200,
  0x80000400000000000ffb1fe00004300010000080000000400000000000080050000000000000001000,
  0x600000000000000800000200001000000000003fec7f800010800040000210,
  0x80000400000000000ffb1fe000042000300000800200009000000000003fec7f800010800040001200,
  0xa0000400000000000ffb1fefffe6200012000cc400000003f85a000000000000000000000000080048,
  0xa0000400000000000ffb1fe000042000120000800280001000000000003fec7f800010800048003200,
  0x2000000000000000000000000280001000000000003fec7f8000108000c8001200,
  0xfc00000000000000000000000000000000000000000000704000000000000000000000000000,
  0x800000000000000000000000000000000000000001800000000000000000000000000000000000000,
  0x100000000004000000000000000fda000000000000000000000000080048,
  0x216800000000000000000000000020012000000000000000001400000000000000000200000,
  0x1e00000000000000000000000000000000200001000000000003fec2f800010800040000200,
  0x200000000000000000000000000000000000000000010000,
  0x800000000000000000000000000000000000000001000000,
  0x100000000000000000000000000000000000000000200000000,
  0x400000000000000000000000000000000000000000800000000,
  0x1000000000000000000000000000000000000000002000000000,
  0xfde7800000000000000000000000000000000000000000000000000000000000008000000000,
  0x1000000000000000000000000000000020000002020, 0x20000002021]⟩

/-- Where each list of actions begins. -/
def listFirst : Packed := ⟨4011, 13, 27, #[
  0x6403001700b0054028013009004402000f007003401800b005002401000700300140080030010004000000,
  0xd006603201880c005e02e01680b005602a01480a004e0260128090046022010808003e01e00e807003601a,
  0x14c0a4051028013c09c04d026012c094049024011c08c045021810808203f01e80f007603a01c80e006c035,
  0x1c00de06e03681b00d406803381980ca06403181880c206002f81780ba05c02d81680b205802b81580aa054,
  0x22c114089044021c10c085042020c10408104001fc0fc07d03e01ec0f407903c01dc0ec07503a01cc0e4071,
  0x2a014c0a405182881420a004f827813a09c04d826813209804b825812a0940498248122090047823811a08c,
  0x3781b80da06c03581a80d206803381980ca06403181880c206002f81780ba05c02d81680b205802b81580aa,
  0x43021610a084842020e106082841020410007f03f01f40f807b03d01e40f007703b01d40e807303901c40e0,
  0x49c24c125092048c244121090047c23c11d08e046c23411908c045c22c11508a044c224111088043c21c10d,
  0x50828214009f84f827a13c09d84e827213809b84d826a13409984c826213009784b825a12c09584a8252128,
  0x5782ba15c0ad85682b21580ab85582a81530a905442a014f0a7053429814b0a505242901470a30514288143,
  0x5f42f817b0bd05e42f01770bb05d42e81730b905c42e016f0b705b02d41680b305942c81630b105842c015f,
  0x66032e1960ca86503261920c8864031e18e0c6863031618a0c4862030e1860c286103061820c086002fe17e,
  0x6cc3641b10d806bc35c1ad0d606ac3541a90d4069c34c1a50d2068c3441a10d0067c33c19d0ce066c334199,
  0x7483a21d00e7873839a1cb0e507243901c70e307143881c30e0870037c1bc0dd86e83721b80db86d836a1b4,
  0x7b43d81eb0f507a43d01e70f307943c81e30f107843c01df0ef07743b81db0ed07643b01d70eb07543a81d3,
  0x82040e206102881040620210088003fe1fe0fe87f03f61fa0fc87e03ee1f60fa87d03e61f20f887c03de1ee,
  0x88c444221110087c43c21d10e086c43421910c085c42c21510a084c424211108083c41c20d106082c414209,
  0x8f847a23c11d88e847223811b88d846a23411988c846223011788b845a22c11588a8452228113889844a224,
  0x9644b025712b09544a825312909444a024f127093449824b12509244902471230914488243121090448023f,
  0x9d04e627213889c04de26e13689b04d626a13489a04ce26613289904c626213089804be25e12e89704b625a,
  0xa3c51c28d1460a2c5142891440a1c50c2851420a0c50428114009fc4fc27d13e09ec4f427913c09dc4ec275,
  0xaa85522a81538a9854a2a41518a885422a014f8a7853a29c14d8a6853229814b8a5852a2941498a48522290,
  0xb145882c31610b045802bf15f0af45782bb15d0ae45702b715b0ad45682b31590ac45602af1570ab45582ab,
  0xb805be2de16e8b705b62da16c8b605ae2d616a8b505a62d21688b4059e2ce1668b305962ca1648b2058e2c6,
  0xbec5f42f917c0bdc5ec2f517a0bcc5e42f11780bbc5dc2ed1760bac5d42e91740b9c5cc2e51720b8c5c42e1,
  0xc5862a3141898c486223101878c3861a30c1858c286123081838c1860a3041818c0860230017f8bf85fa2fc,
  0xcc466032f1970cb465832b1950ca46503271930c946483231910c8464031f18f0c7463831b18d0c64630317,
  0xd3069634a1a48d2068e3461a28d106863421a08d0067e33e19e8cf067633a19c8ce066e33619a8cd0666332,
  0xd9c6cc3651b20d8c6c43611b00d7c6bc35d1ae0d6c6b43591ac0d5c6ac3551aa0d4c6a43511a80d3c69c34d,
  0xe087023801bf8df86fa37c1bd8de86f23781bb8dd86ea3741b98dc86e23701b78db86da36c1b58da86d2368,
  0xe887423a01cf8e7873a39c1cc8e5872a3941c98e4872238f1c70e3471838b1c50e247103871c30e14708383,
  0xef47783bb1dd0ee47703b71db0ed47683b31d90ec47603af1d70eb47583ab1d50ea47503a71d30e947483a3,
  0xf607ae3d61ea8f507a63d21e88f4079e3ce1e68f307963ca1e48f2078e3c61e28f107863c21e08f0077e3be,
  0xfd07e63f11f80fbc7dc3ed1f60fac7d43e91f40f9c7cc3e51f20f8c7c43e11f00f7c7bc3dd1ee0f6c7b43d9,
  0x103c81c40d206102c814409204101c80c405202100c8044012000ffc7fc3fd1fe0fec7f43f91fc0fdc7ec3f5,
  0x10a8852428213909884a424211908884242020f907883a41c20d906883241820b905882a4142099048822410,
  0x112088a443221110488043f21f10f487843b21d10e487043721b10d486843321910c486042f21710b485842b,
  0x11988ca46423191888c246022f91788ba45c22d91688b245822b91588aa45422991488a2450227913889a44a,
  0x120c90448124011fc8fc47d23e11ec8f447923c11dc8ec47523a11cc8e447123811b88d846b23511a48d0467,
  0x127893a49c24d926893249824b925892a4942499248922490247923891a48c2459228912488243921890a484,
  0x12e49704b725b12d49684b325912c49604af25712b49584ab25512a49504a725312949484a3251128494049f,
  0x13509a64d2268934099e4ce26693309964ca264932098e4c626293109864c2260930097e4be25e92f09764ba,
  0x13bc9dc4ed27613ac9d44e9274139c9cc4e5272138c9c44e1270137c9bc4dd26e136c9b44d926c135c9ac4d5,
  0x1428a125082839418a0a5042819408a0250027f93f89fa4fc27d93e89f24f827b93d89ea4f427993c89e24f0,
  0x1494a485232911484a4051f28f1474a3851b28d1464a3051728b1454a285132891444a2050f2871434a1850b,
  0x1500a7e53e29e94f0a7653a29c94e0a6e53629a94d0a6653229894c0a5e52e29694b0a5652a29494a0a4e526,
  0x156cab45592ac155caac5552aa154caa45512a8153ca9c54d2a6152ca945492a4151ca8c5452a2150ca84541,
  0x15d8aea5742b995c8ae25702b795b8ada56c2b595a8ad25682b39598aca5642b19588ac25602af9578aba55c,
  0x1644b2058f2c71634b1858b2c51624b105872c31614b085832c11604b0057f2bf15f4af857b2bd15e4af0577,
  0x16b0b565aa2d496a0b4e5a62d29690b465a22d09680b3e59e2ce9670b3659a2cc9660b2e5962ca9650b26592,
  0x171cb8c5c52e2170cb845c12e016fcb7c5bd2de16ecb745b92dc16dcb6c5b52da16ccb645b12d816bcb5c5ad,
  0x178cbc45e12f0177cbbc5dd2ee176cbb45d92ec175cbac5d52ea174cba45d12e8173cb9a5cc2e59728b925c8,
  0x1818c0860230017f8bf85f92fc17dcbec5f52fa17ccbe45f12f817bcbdc5ed2f617acbd45e92f4179cbca5e4,
  0x18acc526283139898c4a6233111884c3e61d30e186cc3461830b9854c28612308183cc1c60d3059824c10607,
  0x1934c9864b3251924c906473231914c886433209900c7e63d31d98e0c6e63631a98d0c6663231898c0c5a62c,
  0x19a0cce6663329990cc66623309980cbe65e32e9970cb665a32c9960cae65632a9950ca66523289940c9e64e,
  0x1a0cd0468134019fccfc67d33e19eccf467933c19dccec67533a19ccce467133819bccdc66d33619accd4669,
  0x1ac8d626b03579ab8d5a6ab3549a9cd4a6a33509a7cd3a69b34c9a5cd2a6933489a3cd1a68b3449a20d0c684,
  0x1b44da06cf3671b34d986cb3651b24d906c73631b14d866c23609b00d7c6bd35e1aecd726b835b9ad8d686b3,
  0x1bb0dd66ea3749ba0dce6e63729b90dc66e23709b80dbe6de36e9b70db66da36c9b60dae6d636a9b50da66d2,
  0x1c24e107073831c14e087013801bfcdfc6fd37e1becdf46f937c1bdcdec6f537a1bccde46f13781bbcddc6ed,
  0x1c90e467223909c80e3e71e38e9c70e3671a38c9c60e2e71638a9c50e267123889c40e1e70e3869c30e1670a,
  0x1d04e8073f39f1cf4e7873b39d1ce4e7073739b1cd4e687333991cc4e6072f3971cb4e5872a3949c9ce4c725,
  0x1d78eba75c3ad9d68eb27583ab9d58eaa7543a99d44ea074e3a69d30e9674a3a49d20e8e7463a29d10e86742,
  0x1de4ef07773bb1dd4ee87733b91dc4ee076f3b71db4ed876b3b51da4ed07673b31d94ec87633b11d84ec075f,
  0x1e54f287933c91e40f1e78e3c69e30f1678a3c49e20f0e7863c29e10f067823c09e00efe77e3be9df0ef677a,
  0x1eccf647b13d81ebcf5c7ad3d61eacf547a93d41e9cf4a7a33d09e80f3e79e3ce9e70f3679a3cc9e60f2e796,
  0x1f44fa07cf3e71f34f987cb3e51f24f907c73e31f14f887c33e11f00f7e7bd3dd9ee8f727b83db9ed8f6a7b4,
  0x1fc4fde7ed3f61fa8fd27e73f31f94fc87e33f11f80fbe7de3ee9f70fb67da3ec9f60fae7d63ea9f50fa67d2,
  0x203501880b40520250108074032011006802400a000ffe7fe3fe9ff0ff67fa3fc9fe0fee7f63fa9fd0fe67f2,
  0x20b905a82a413a09904a824411a08904282040fa07903a81c40da06903281740aa051026812408a04101e80e,
  0x213509884b4252125090847422a10d08283f41f20f507883b41d20e507083741b20d506883341920c506082f,
  0x21b10d686a434a1a10ce866432a1910c686142fa1790ba85b42d21650b085642aa1510a6852428a14109e84e,
  0x222d112888443a21910a884441a20910288043fa1f90fa87c43da1e50ee87543a21cd0e487143821bd0dc86d,
  0x22b51588ab45522a51508a745322951488a3451228514089f44f227513689a44c225d128892448a23d11c88d,
  0x23351988cb46523251908c746323151888c346123051808bf45f22f51788bb45d22e116c8b445922c115e8ae,
  0x23a51d08e747323951c88e347123851c08df46f23751b88db46d23651b08d646aa3511a68d2468a34119e8ce,
  0x2411206902480a4011fe8fe47ea3f11f68fa47ca3e11ee8f647aa3d11e68f2478a3c11de8ee476a3b11d68ea,
  0x247d23c91d48e246d23491948c245d22c91548a244d224911488243d21c90d486242d214909484241d20c905,
  0x24f127693a49ca4e126e93649aa4d1266932498a4c125e92e496a4b1252928493a49924a924491a489242920,
  0x256d2b49594ac255d2ac9554aa25492a094e4a6a53129694a4a4a52128e9454a2250d2849414a024fd27c93d,
  0x25dd2ec9754ba25cd2e49714b825bd2dc96d4b625ad2d49694b4259d2ca9644b1a5892c29604afa5792ba95c,
  0x264d3229904c7a63931a98c4c5a6293129884c3a61930a9844c1a6093029804bfa5f92fa97c4bda5e92f2978,
  0x26d53689b34d926c53609af4d6a6ad3529a74d2a68d3429a04cfa67933a99c4cda6693329984cba65932a994,
  0x27613ac9d54ea274d3a49d14e827393989cb4e5272138e9c64e2a70d3829bf4dea6f13769ba4dca6e136e9b6,
  0x27d93ea9f44f9a7c93e29f04f7a7b93da9ec4f5a7a93d29e84f3a7993c89e24f0a7813be9de4eea7713b69da,
  0x2855428a135092845420a0f5072835418a0b5052825410a075032815408a0350128054009ff4fea7ed3f29f8,
  0x28c9462a30517a8b945aa2c515a8a9452a28513a89944aa24511a889442a2050fa87943aa1c50d286542ea16,
  0x2935498a4b5252925490a475232915488a435212905480a3f51f28f5478a3b51d28e5470a3751b28d5468a33,
  0x29a54d0a6753329954c8a6353129854c0a5f52f29754b8a5b52d29614aea5652aa9514a6a52528a94149ea4e,
  0x2a11506a82540aa014fea7e53ea9f14f6a7a53ca9e14eea7653aa9d14e6a72538a9c14dea6e536a9b14d6a6a,
  0x2a7d53ca9d54e2a6d534a9954c2a5d52ca9554a2a4d524a915482a3d51ca8d5462a2d514a895442a1d50ca85,
  0x2ae9572ab855baad956aab4559aac9562ab0557aab955aaac555aaa9552aa8553aa9954aaa4551aa89542aa0,
  0x2b555a8ad35692b455a0acf5672b35598acb5652b25590ac75632b15588ac35612b05580abf55f2af5578abb,
  0x2bc15deaee576abb15d6aea574aba15ceae6572ab915c6ae2570ab815beade56eab715b6ada56cab615aead6,
  0x2c2d614b095842c1d60cb055822c0d604b015802bfd5fcafd57e2bed5f4af957c2bdd5ecaf557a2bcd5e4af1,
  0x2c9964ab24591ac89642b2058fac7963ab1c58dac69632b1858bac5962ab14589ac49622b10587ac3961ab0c,
  0x2d0d684b415a02cfd67cb3d59e2ced674b3959c2cdd66cb3559a2ccd664b315982cbd65cb2d5962ca9650b27,
  0x2d796bab5c5adad696b2b585abad596aab545a9ad496a2b505a7ad3969ab4c5a5ad29692b485a3ad1968ab44,
  0x2de56f0b775bb2dd56e8b735b92dc56e0b6f5b72db56d8b6b5b52da56d0b675b32d956c8b635b12d856c0b5f,
  0x2e55728b935c92e45720b8f5c72e35718b8b5c52e25710b875c32e15708b835c12e05700b7f5beadf16f6b7a,
  0x2ec175ebae5d6aeb1756baa5d4aea174eba65d2ae91746ba25d0ae8173eb9e5ceae71736b9a5ccae6172eb96,
  0x2f2d794bc95e42f1d78cbc55e22f0d784bc15e02efd77cbbd5de2eed774bb95dc2edd76cbb55da2ecd764bb1,
  0x2f997cabe45f1af897c2be05efaf797babdc5edaf697b2bd85ebaf597aabd45e9af497a2bd05e7af3979abcc,
  0x3005800bff5ff2ff57f8bfb5fd2fe57f0bf75fb2fd57e8bf35f92fc57e0bef5f72fb57d8beb5f52fa57d0be7,
  0x3071836c1a60cb06182ec1660ab051826c12608b04181ec0e606b031816c0a604b02180ec06602b011806c02,
  0x30dd86cc3561a30cd864c3161830bd85cc2d61630ad854c29614309d84cc25612308d844c21610307d83cc1d,
  0x31498a2c50627b13989ac4c625b129892c48623b11988ac44621b109882c4061fb0f987ac3c61db0e9872c38,
  0x31b58d8c6b63531a58d0c6763331958c8c6363131858c0c5f62f31758b8c5b62d31658b0c5762b31558a8c53,
  0x3229912c88643b21990ac84641b209902c8063fb1f58f8c7a63cb1e18eec7663ab1d18e6c72638b1c18dec6e,
  0x32a194eca6652b291946ca2650b28193ec9e64eb271936c9964c325d92cc95649b249920c8f6473235918c8b,
  0x330d984cc166032fd97ccbd65e32ed974cb965c32dd96ccb565a32cd964cb165832bd95ccad65632ad954ca9,
  0x33799bacdc66db3699b2cd866bb3599aacd4669b3499a2cd0667b33999accc665b329992cc8663b31998acc4,
  0x33e99f2cf867bb3d99eacf4679b3c99e2cf0677b3b99dacec675b3a99d2ce8673b3999cace367133859c0cdf,
  0x3469a32d1868bb459a2ad14689b445a1ed0e686b431a14d08683b419a0ad04681b409a02d0067fb3f59f8cfb,
  0x34d9a6ad34699b4c9a62d30697b4b9a5ad2c695b4a9a52d28693b499a4ad24691b489a40d1f68f3475a38d1b,
  0x3555aa8d536a8b541a9ed4e6a6b531a96d496a3b519a8ad446a1b509a80d3f69f34f5a78d3b69d34e5a70d37,
  0x35d1ae6d726b8b5c1aded6e6b6b5b1ad6d6a6b4b5a1accd646b13581abed5e6aeb571ab6d5a6acb561aaed56,
  0x364db24d916c83639b1ad8c6c53625b0ed866c2360db04d816c035fdafcd7d6be35edaf4d796bc35ddaecd75,
  0x36c9b62db06d7b6b9b5adac6d5b6a9b52da76d33695b48da36d13685b3ed9e6ceb671b36d9a6cc365db2ad94,
  0x3735b98dcb6e53725b90dc76e33715b88dc36e13705b80dbf6df36f5b78dbb6dd36e5b70db76db36d5b68db3,
  0x37a1bcede66f2b791bc6de26f0b781bbedde6eeb771bb6dda6ecb761baedd66eab751ba6dd26e8b741b9edce,
  0x380dc04e0170037fdbfcdfd6fe37edbf4df96fc37ddbecdf56fa37cdbe4df16f837bdbdcded6f637adbd4de9,
  0x3889c42e2070fb879c3ae1c70db869c30e1670ab851c26e12708b841c1ce0d705b829c12e08703b819c0ae04,
  0x38fdc7ce3c71db8e9c72e3871bb8d9c6ae34719b8c9c62e30717b8b9c5ae2c71538a5c50e277133895c48e23,
  0x3975cb8e5b72d3965cb0e5772b3955ca8e53728b941c9ee4e726b931c96e4a724391dc8ce45721b909c82e40,
  0x39e9cf2e7873b39d5ce8e7373939c5ce0e6f73739b5cd8e6b73539a5cd0e677333995cc8e637313985cbee5e,
  0x3a55d28e937493a45d20e8f7473a35d18e8b7453a25d10e877433a15d08e837413a05d00e7f73f39f5cf8e7b,
  0x3ac1d5eeae756bab1d56eaa754baa1d4eea6752ba91d46ea2750ba81d3ee9e74eba71d36e9a74cba61d2ee96,
  0x3b2dd94ec97643b1dd8cec57623b0dd84ec17603afdd7cebd75e3aedd74eb975c3addd6ceb575a3acdd64eb1,
  0x3b9ddccee57723b8ddc4ee17703b7ddbcedd76e3b6ddb4ed976c3b5ddaced576a3b4dda4ed17683b3dd9aecc,
  0x3c09e02f0077fbbf9dfaefc77dbbe9df2ef877bbbd9deaef4779bbc9de2ef0777bbb9ddaeec775bba9dd2ee8,
  0x3c75e38f1b78d3c65e30f1778b3c55e28f137893c45e20f0f7873c35e18f0b7853c25e10f077833c15e08f03,
  0x3ce1e6ef3679abcd1e66f32798bcc1e5ef2e796bcb1e56f2a794bca1e4ef26792bc91e46f22790bc81e3ef1e,
  0x3d4dea4f517a83d3de9cf4d7a63d2de94f497a43d1de8cf457a23d0de84f417a03cfde7cf3d79e3cede74f39,
  0x3db9edaf6c7b5bda9ed2f687b3bd99ecaf647b1bd89ec2f607afbd79ebaf5c7adbd69eb2f587abbd59eaaf54,
  0x3e25f10f877c33e15f08f837c13e05f00f7f7bf3df5ef8f7b7bd3de5ef0f777bb3dd5ee8f737b93dc5ee0f6f,
  0x3e91f46fa27d0be81f3ef9e7cebe71f36f9a7ccbe61f2ef967cabe51f26f927c8be41f1ef8e7c6be31f16f8a,
  0x3efdf7cfbd7de3eedf74fb97dc3eddf6cfb57da3ecdf64fb17d83ebdf5cfad7d63eadf54fa97d43e9df4cfa5,
  0x3f69fb2fd87ebbf59faafd47e9bf49fa2fd07e7bf39f9afcc7e5bf29f92fc87e3bf19f8afc47e1bf09f82fc0,
  0x3fd5fe8ff37f93fc5fe0fef7f73fb5fd8feb7f53fa5fd0fe77f33f95fc8fe37f13f85fc0fdf7ef3f75fb8fdb,
  0x404201f00e806c03201700a804c02200f006802c012007002800c001ffeffe7febff1ff6ffa7fcbfe1feeff6,
  0x40ae055029814409e04d025812408e045021810407e03d01d80e406e03501980c405e02d01580a404e025011,
  0x411a08b044821c10a08304081fc0fa07b03c81dc0ea07303881bc0da06b034819c0ca063030817c0ba05b02c,
  0x41860c105f82f41760b905b82d41660b105782b41560a905382941460a104f827413609904b8254126091047,
  0x41f20f707a83cc1e20ef07683ac1d20e7072838c1c20df06e836c1b20d706a834c1a20cf066832c1920c7062,
  0x425e12d09584a424e125091848423e11d08d846422e115089844421e10d085842420e10508184041fe0fd07d,
  0x429a14b0a4851c28a1430a084fc27a13b09c84dc26a133098]⟩

/-- The actions of the lists, with their sort in the last three bits. -/
def listAction : Packed := ⟨4262, 16, 22, #[
  0xf8a0880c68188006108d50a080a0786c7824f06dd0a0700c60002024e85b1827e815c00070000200050003,
  0xab1828d041f87560891889100c781e88ab100c7003006dd816c066f80688052009d80948a0988d608d58a090,
  0x6c980fa8000ab420000a0d801f401f380130027011e8000a000a5bf0ab30ab28ab2024f8161828d87a384200,
  0x7c811e80ca8120003180b7074b816a067b0056011f05c1808b823f824b88b2027301f50001a1148001a0012,
  0xc980a980dd0001a001a000a2b185bb0abf01f58abe8abe027f805883b2033a83ba8b510271043088be08bd8,
  0x3be025f024681668166015a815f015e815d07a5825e842100ca00240159006a0246006382f402458254857f0,
  0x15a024a824a025c00eb0264824981680167815b0160015f815d826400248159824902f68248825b80e904038,
  0xc6100220021002224e900225b19002227e9002215c10022266824b01698169015b81610160815e026600250,
  0xa08900220c69002218810022061100228d510022a0810022a07900226c79002224f100226dd10022a0710022,
  0x16c1002266f90022068900220521002209d9002209490022a09900228d6100228d590022a091002200f90022,
  0x28d1002241f900227561002289190022891100220c7900221e890022ab1100220c710022030100226dd90022,
  0x3a0032002a0022ab310022ab290022ab21002224f900221619002228d900227a39002242010022ab190022,
  0xaa1000282520287015c817c8546017b854805450544830a833883670074007283620175017480052004a0042,
  0x3ba0021805181070106808e807d0242825e02ac82530163029d029c80338751816e867c8aa20a000aa182528,
  0x3030392823b0b778b7a8299023a805a846d04b20b4c82698153807a0b4200ec02398239004c8108003d01730,
  0x6df816e067003ae02ec825180d4889282978005a0100005a0fa8abc0397007e04ba047e047d040c840a04068,
  0x28f843a0439838d842a8273802b82ee87850000a1e88000a0778000a0618000a3610355840e829c0032809e0,
  0x7f000183ca03c98aef8275047786d800dc008180f900ed8033016d0021005300e888db00e80090824202508,
  0x114833902db0048818582ed827b82d487850af38076806180810080800103b18456844d044c044b8283007f8,
  0x2540109029e0b54001802ae00388171825c82ab001000c9028c802f80b1016b82ee024e00fb8289007700062,
  0x13a80fb8001a0dd02c4004300c0017e81fe826d82bf013a8001a0a480a48000a0062000a29f803500b4016f8,
  0x4280bd017e026d012e02be82b1003e80ba0172825d812182ac0b5002bb003c80ac8177826780ef02ba82038,
  0x6d9807980ed020f820f003b0023802a8650008f8240064d80d702c5004400c3017f826e814682c00b5802c38,
  0x11180f8014e814281360129811c810480e602b8063e8b0b02110b0a8b7302760210805b8394840e026a840d0,
  0xe70032016c801b002a008c82408250028e82a9805684b58501829b0112802e816b002300920244824d82888,
  0x5e844484fe0281050306d880ec803f01800022008f0243026f02c10280805703b403b3827183c906d480830,
  0x3440283835686d600ea003701710020008d0241025b02a782988059046602840038016d82440251029182958,
  0x4b80b62828584b786d90153008681058157003c0177002280538152815200910243826702ba0298005804638,
  0x26c02bd82b6006084fd046d82a8047506d700eb80468020808e0241827803a8026b0107808d829a805d84758,
  0x55814481440093026c82be02ae805f04dd8b5902a081560088012c01390040017d005501380137809182450,
  0x87011d81580034816f00528155015480928253829d82af805f84ed0b5c82a181568088813881450040817d8,
  0x5e04990b55028801558087811f812c803d81720054012b812b0093825d02ab82878057840f8b6f827780ee0,
  0x28c002f0006a0fc02b0006004ee0b5f82a201138089015401510041017f0054815081500094026e02bf829e8,
  0x43814704ed82b0803e0122051702bb803b80ef84a582a7003780dd849a82a100340109828f003080cb041f0,
  0x5bf88c208c1889506c888df07a788de0abd8188802b0115052b02c30042013b052a82c28041812e852b82c48,
  0x64e08b108b088cc06d5887e0b0a0194802d0178023a08d3026001670174025f826187a802a381f485c005b20,
  0x7202584220421829000310b430b428b630265816887548178867e06da0265074a889082ad8210064e86010,
  0x2ad003903ad007b873a07398780077f8738877e890408fa0029846100778008a17900082007aac80ac7800a0,
  0x10a01021c3000fa00f21be800ea00e21bc81bc000da00d200ca00c21b0000ba00b200aa00a2009a00924dd0,
  0x1720758016a016207381cf8015a01521cd8014a01421ca81ca0013a01321c70012a01221c68011a01121c60,
  0x25502a506e6001924fc82a680368170884b8078808002ef825602a604fe84b38393035503608018a0182017a,
  0x65a801a2019a5c9001a2019a2b5803a8176826202b5001a2019a49e02a580360170007806e7825586e702ef0,
  0x443029500f98019a028043a802606d286680618850001ea82f500d8838080900026842b0671801a201b201aa,
  0x43b00278199828a827a028a026b828b82898278827d84060263828b04b60276829f02680302827583df826a0,
  0x2b28003001f001d801d001c0017001580150014052a02c2003f8180876402720763826f82c18029044c80288,
  0x598005a000aab508d6852c02c600448181027002c58004000382b4003a0176026102b382b30039817582608,
  0x3e00443838f8274802c016a824c0274049c82a40035875805688a0b0ab60ab586de8649075780d388d788d70,
  0x2d2854902d200470184027982d1854882d100460183827902d0854702c880458183027702c8040704b683038,
  0x2d680498186827c82d6054a82d580490186027c02d5054a02d400480185027b02d3854982d300478184827a8,
  0x5a000a0d40000a0640005a000a57f8000a54c02d9804a8187827e02d9054b82d7804a0187027d02d7054b0,
  0x1da01d201ca01c201ba573055985540553875b805c00c88a1186e30ac10ac085530898875c06e2089808de0,
  0x6e50abb0aba8b4e8b4e0b52874c0b5208de0000a0640000aa71073d056e8aac0b768b43874b07858b780b688,
  0xb610b608b5a8b5a017c017b075581798b658b650a1c88ec001e2b568b560b5e0b5d8b718b7107520af28af20,
  0x6520b0d83ca8af88022a0222021a0212020a1bb80202013801fa62c004c05c30acc801f2af78af70009001ea,
  0x2ba02b202aa02a2029a0292028a0282027a0272026a0262025a0252024a0242023a02326aa8b32830d0b208,
  0x362035a5ce00352034a0342033a0332032a0322031a0312030a030202fa02f202ea02e202da02d202ca02c2,
  0x40a040203fa03f203ea03e203da03d203ca03c203ba5d0003b203aa03a2039a0392038a0382037a0372036a,
  0x32f03268663865f03fb83f20048a0482047a0472046a0462045a0452044a0442043a0432042a0422041a0412,
  0x8c806788b2f821d821d08ce0195802e06a806d782b906a5804b204aa04a2049a04925f305f285b386bb86b78,
  0xaf50207820708ca8194002c83c306d402b783c00b30821f0b3006018b75021e821e0675861086a6088108c88,
  0x8cd0195002d830986d682b883068602864105d20af602090af586038b67020882080395036783c08871038e0,
  0x8c608c58224022388cf86da82b98b1e02188b1d86048b740218021782fa82f38307088002f70b1d021702168,
  0x3f383e983e8004ca04c204ba24805cb0247860606e2860586dc066f02258b6786050b7702250224874d067c0,
  0x59782e602fe830782f906a6864486c303c1039003b286c086c006b906b686b50643831e86430304865d83040,
  0x396824d064682e981638acc047a0479838a8360033a06090aca85f5835f807902e1006603b9824c840f06450,
  0x302064602e8047c047b83920365834c860003650391864582e686510480047f83998376835c0603037602e28,
  0x4b984810480839a8377835c86040377064702eb047d847c840c04098405847f047e83980368835b860203680,
  0x4fc04fb845103bc838c063003bc067502f1804f204ea305004e204da04d218206c803ab807a806208ba08b98,
  0x9ef8a940085005520a000d50054a005a05420542053a0532052a0522051a0512050a050204fa67388d803000,
  0xfc805621f600542acd80542056a0542056a05620542ad00055a11581f608fc0a32008406d080b180fc822f0,
  0x7a8000a0b78056a05620562115805627a39057205720b4810a022f00542b0e805420cb82098056aa358056a,
  0x582056a05420592058a67b805720ba812280ad80f000192000a0de00aa00de00562056205420582057a9038,
  0x2f08a0501ff813b805621ff00a500a5005420582054200620192000a05a2059a0c3814780c0813b80bd812f0,
  0x16480d7878282e406a982e3830b02e303c702e2020404a703b004a0043003b10606864a042f80a1864b85810,
  0x136812a011d010507848784078386bd06bb06b703308329831f06650663065e83fd03f603ea00e6816581650,
  0x580105aa64b905aa2e5835f0580856a035e049f03af835d887085f2042c02e5035d0580011200f8814f01430,
  0x5aa3af905aa35d905aa870905aa5f2105aa8b1105aa8b0905aaaca905aa42c105aa0a1905aa2e5905aa05aa,
  0x7860b6480db89d80a01005d0a0083938005a2f40005a580905aa56a105aa4a7105aa3b0105aa35e105aa49f1,
  0x3ae868081d402ec01d384b90005a17a82ea817a03610005a07602e9007483558005a34802e7834003ae0005a,
  0x524852404a7846283c60462036286a2022d873e0a7200ae0083805b251a0519849d842983af06df0429007c0,
  0x4b504770409047684b486a90526852604b1847404050473839406a50525852504af846c0404046b835606a40,
  0x6e4822e0b218a9a805d2a9a005caa99805c205ba005a0da0529052884b70479040b847884ff86c1052785270,
  0x21982190062a0622061a0612060a060205fa22e805f205eaa98805e205da359854d054c851904ef049c04ee8,
  0x1ef80672a990066a0662065ab1f800c0b1f006520642064a0642063a063a01ba0082b0c800b0b0c0063223d8,
  0x712070a070206fa06f206ea06e206da06d206ca06c221a806ba06b206aa06a2069a0692068a0682a9b0067a,
  0x7a2079a0792078a0782077a0772076a0762075a0752074a0742073a0732072a0722071a00ca071a071a00c2,
  0xa1280a08082835b00832082a0822081a0812080a080207fa07f207ea07e207da07d207ca07c207ba07b207aa,
  0x89a0892088a0882087a0872086a0862085a0852084a0842083a4bc0451860b049500f780d90598022606e40,
  0x5a069a0842066205420912090a090208fa08f208ea08e208da08d208ca08c208ba08b208aa08a205f20542,
  0x63a0a58563878880d40589058884f704f686890582858304f204f1868784a9843d05f4043c800d05820a2f8,
  0xff80ff00fe88e100fd0257822680fd804e0091a2138af983618a810a808a800008a008236480912090a064a,
  0x9620962095a0952094a094204e0093a093a0932092a092210b0227033d01030102810201018101010081000,
  0xe300e280e200e180e100e080e000de80df80df00f102920424804b8096204e0084a097204e0096a096a04e0,
  0xd280d2004b80d180d100d080d000cf80cf00ce80ce00cc00cd01f7004b8096a29101f680e480e4004d00e38,
  0x1ba008a0082214034c0097aa788591859104fa84fa068f8587058684f604f58688804b8093a04b8084a0cc8,
  0x93a15881108110010f810f010e810e010d810d010c810c010a810b805001930262809821e100642064a063a,
  0x98a4aa0442860884420585057f81a301a28ac906e5842807ac80cd819b00500084a0500096a050009620500,
  0x5f78461859b04ab044e05f6844d85860099a0932099a093209921a7009920922099223c020a820a005f2098a,
  0x5fb84a8845885fb0464059b809a209a205f20642064a01ba008a4ac0450860a8450058b058805f804a6844e8,
  0x20b805f2098a0542098a0542a81804d0084a1ec8a79004d0096a04d0096285204bc845a860e0496059885908,
  0x12801278127012681260125812501248124012301238050884b087184ff04b40393810a809aa09aa04d0093a,
  0x76500fe009708a1004f209ba437042b808b009b209b205420508084a0508096a050809620508093a12d01288,
  0x9a009ca09ca086a54f854f051b84f384a306eb04f30a3e849d06f08296838b08a7055b87660441809c255a8,
  0x5fa04ad05f98457055f0770058c009e209b001481db01da80060297055e076d8566079b055c876b009da09d2,
  0x5fe04aa85fd8467059c04ae05fd045f056107748593809ea016801601db84ad860d845985600772059285fc8,
  0x46a059c856207788596801781e001df01de01dd01dc04bd060f0497859904ae860e846005618776859605ff0,
  0x8608568079f859d0567879f0058206620542567079e8566879d84bd860f849885998562877a059704ac85ff8,
  0x25a004d8093a2f5815780f680f600f580f500f480f400f380f300f280f200f080f1804d833f886c086788670,
  0x1f8565078e801e801e0564878e001c8564078b004d8084a04d8096a04d809626d3066e0619050081eb025a8,
  0x3b805f5043d859a809f25568556052d051b04f0851a8762004ea05c205ba1a68098809d009c0565878f059a0,
  0x132013181310130812f8130004f0864086388518771868b0a4c01c281c2076c009fa5848584035e84a203b88,
  0x141814101408140013f813f013e813e013d813d013c013c804f804f0093a1398135013481340133813301328,
  0x14a814a01498149014801488051004f8084a04f8096a04f8096204f0084a04f0096a04f0096204f8093a1458,
  0xa024a480872083a05ba6f100da80510084a0510096a051009620510093a151814d814d014c814c014b814b0,
  0x59586978521869705948694052006938090208ba013200d258e868c851d068c058d051c808ba087200f200b2,
  0x4e8093a120811b811b011a811a01198119011881180117811701160116804e864c80e78148009aa01520102,
  0x69a869a06998696069306918691068f011300fa014f81438137012a811e004e8084a04e8096a04e809621060,
  0xa420a3a0a320a2a0a220a1a0a125508551105aa54e854e90a0a0a0a6a086a0069f869f069d869d069c869b0,
  0xa200a920a8a0a8255a0555876185550581854685458551855200a7a0a720a6a0a620a5a0a52afb808480a4a,
  0x68e0560877305930558855e876e858b858a858a038b83bb83bb05f88557855c07698585856b838783b783b70,
  0x58787bf01b403b904a184a105f48583805a054d87a0079008709057277c877b87770776058f858f04f984f90,
  0x58d8457844f05f9055d0558005c886d886d086988688876885a005b01cf01ce81c908ad01c803bd04ab85f70,
  0x51f0690851e8690051e068e868d851d868d068b868a051c06898460845f85fe845a045905fc045805fa855f8,
  0xa510ae6869e8523869e069c0523069b852286990698852206980696852106958695052086948692851f86920,
  0xd30a228a2209f08a9509f00a9481fd88fd8a338acd88d8862b862b05f18ab68ab700a9a8fd0a3308fc8a328,
  0xb1701038b078b060b048b0400e509fa8a9e89fa0a9e023009f98a9d8085822c8b0e8aeb0ae98ae80ae781e98,
  0xaaa8e488e400aa211100f7014e014201358b3f8b3e0b3c8b3c01290b2d8b2c0b2a8b2a011c0b1a8b190b178,
  0x63306f6063286f58632063186f500aba62f006406f3062e862e06f280ab21fe05f6062d01f8006586ed00d60,
  0x63a070980aca6388709063807088637870506370704863686fc063606fb863586fb00ac263406fa063386f98,
  0x1f98056a0ada056a6db874202fb8396064206770a92063d872380ad263c071c863b8715063b0714863a870a0,
  0x63e063d063c80b02639863900afa635063480af26308045062f80aea1fd01fb01fa81fa062d80ae21f981f90,
  0xb620b5a0b520b4a0b420b3a0b320b2a0b220b1a0b128e506c90ac68ac606498ac709f10a9580b0a20c0b410,
  0x9fb0a9f0213023d0212021181ee00b6aae38ada88f588f50ad408e28ac3875b08e3822f80860a9c822d0a928,
  0x1e700b8220c80b7a90c0a4300b720a68a1a80e980b72900868682e706850683068101f3009f067f02e482338,
  0x6f886f806f786f706f680bb20baa0ba22eb80b9a0b922ea02e886c686c606c406c1822986c506c28a9d00b8a,
  0x707870707068706070587040703870307028702070187010700870006ff86ff06fe86fe06fd86fd06fc86f90,
  0x715871407138713071287120711871107108710070f870f070e870e070d870d070c870c070b870b070a87080,
  0x72107208720071f871f071e871e071d871d071c071b871b071a871a071987190718871807178717071687160,
  0x220021f81e0872a872a0729872900bba72887280727872707268726072587250724872407230722872207218,
  0x75983c783630b320b31800e00bd20bca0bc220302028202004b0444078708a405b2859e0ab8822101f1023e0,
  0x7ac075c87ab808a07a70758823406478b44040d84b885038478066705e38476030b82f20358061205b983e08,
  0xc02b3388a900bfa0bf20db0a3500bea0ada67307b5876280be289f8a018ad086e907ae875e875d80e580bda,
  0xa820b7980ca20c9a0c920c8a0c820c7a0c720c6a0c620c5a0c520c4a0c420c3a0c320c2a0c220c1a0c120c0a,
  0x88b87a3088a87a28233088407a2088207a1823f02318231022a0a9b8886079e0883879b8aa08aa00a9f8a960,
  0x7b901fc00cb20caa0a401ae0ad607b607b508f38ad204318760024701e907af0ac20670856981d9009f84238,
  0xcca2c707c7000e87c5090488a8007d81bb07c187c10a3a8296009f90cc20cc276010cc2a3680cba16402c68,
  0x7f080cf27ed07dc87da87da00cea2e190cea7d502c787cf87ce00a410ce20ce2ad610ce27cc0a4980cda0cd2,
  0x228022782c98878857e03dc02c9034283d101ec033c00d0a0d020cfa8438835883208140813881087f407f28,
  0x2cd86b001f082cd02cc831382cc064281ef02cb82cb065802ca830181ed887d887d087c887c02ca087a823e8,
  0x9820d1288a08898889088888880887822908868885867d856f02d002cf878302cf06bf01f202ce82ce06b08,
  0x1b080d1a6ec01ab01aa81aa01a98ac281f885c487b1019d8a17819d0ac4826908e0888c888c0887088480fe1,
  0xd3a0d3a90a00d321da00b8a1fc80b821be01bd81bd01b781b701b680d2a5c987bd81d980b820d221b181b10,
  0xd7a20500d720d6a20000b8a0d620d5a0a880a800a780a700d521c401c1056c810400d4a0d427bd90d3a1f89,
  0xa0280e1a0e120e0a0e020dfa0df20dea0de20dda0dd20dca0dc20dba0db20daa0da20d9a0d921ce00d8a0d82,
  0xb8a8668860085f885f0862857001e380b8a21280b8285e08580857885703e281e300b8285503cc8873053d0,
  0x23480b8a1e800b8a23280b821e780b82b468b69067e86b386ac88818318030f0880865b0654087f086c82148,
  0x57200a600e2a0e221ac81ac00a2889f089e82f1068180d6819f06e6819e867108e2019c0896089582f00b698,
  0xe6a0e620e5a0e526e690e5205c20e4a0cd909826ef089f10e420e4289e90e3a0e3a6e807be8acb00e325c88,
  0xea28a910d9220686cb86cb00e9a0e9277280a610e8a0e8a0ea80e827cb85cf01fc10cd220100e7a0e720e72,
  0x20e89d683f409d603e18856085585b1072b884c884c0af1084a88b488b405b086cf86cf00eb26ce86ce00eaa,
  0x6d1822306b986b2816288c308c28162021c8328031702fa08bf08be82f882160660865a007508bb08ba80730,
  0xa0e81988a0e01980a0d807b023c823b82388238023782370235822c067b86bf88c988c906be86d208c708c68,
  0xad3876100ed28f4067280eca294029380a3876087b1889e0a2180ec28eb00648428868008e600eba1f7875a8,
  0x8b109f2687043b80ef2764806500eea42810eea0ee249d10ee24378684868404368ad508f70ad4864a80eda,
  0xf2a0f2206e90f220f1a0f120f0a1b9064b0a3d8a3d0901867400f0276900efa8a681ea05c901b2008010ef2,
  0xf4a0f4238c81c1856d00f3a90a90f3a1bf05a605a585cd85a405a385cd05a205a185cc85a0059f85cc00f32,
  0xf8a1c9856e01c8856d80f820f7a1d890f7a0f720f6a0f620f5aa508a4300f5267490f52a4b8a4b00f4a68a9,
  0x102a1022101a1012100a10020ffa0ff20fea0fe20fda0fd20fca0fc20fba57c10fba0fb20faa0fa20f9a0f92,
  0x346872c872c03460259825900b089d508b78a78077f0066833f072b00df90982105a1052104a1042103a1032,
  0xa6f0a6e8a91873900678a6e086a05718869057102f60863057081d5085e88b881ed03e201d4872d034780670,
  0x1f0031781d68a9801eb81d605d905d885e985d705d685e905d505d485e885d305d285e801ee865a81d580680,
  0x66e81f2861981d80620862005ee861e861e05ee061c861c05ed861a861a05ed01f186b301d78a9c050101d70,
  0x1a582930292856b01a201a18099075d0897810627a90ac40199009e82308090109f201b87880aa3007e86d38,
  0x1b601b581b505b905b885b805b785b685b60107a0ad010721ab84360106a1a901a881a801a787b28ad281a60,
  0x1c4810c210ba10b210aa2570256810a25a505a485a305a285a105a08109a1092108a1ba01b9810821b881b80,
  0x8548854085388530851085082588258056f811122060110a110210fa10f210ea10e210da0a9010d210ca1c50,
  0x616861586150285028483f003ef83ee03ed83ec03eb83eb03ea885c085b885b03e783e703e683e603e403e38,
  0x322832103208320031f831d031c831c031b83198319029a029985d805d785d605d585d405d38618061786170,
  0x28602b702b682aa82aa061f861f061d861d061b861b066d866d066c866c066b066a82a902a88325032483230,
  0x42f00a30a1c0a1b00d584268ac58a15067f8ac300a100004a1206e38ac18abd08850b7a08830b7889e582868,
  0xad78294808c00d9806c006b88f60111aad301fb868387b30a270a268ad1868201d98ace05bd0608089d85c40,
  0x20182008200059d86ca0005011429030113a902011327bf8112a6880ad9027281da05b705b581fc88a301122,
  0x5ad05ac85ac05ab86cd82058a5688ad8115220485ab05aa85aa05a985a905a885a805a785a705a686ca8114a,
  0x192819201e1839103ce83cc039080ac00ab80ab033e80aa81df81de81dd81dc85b005af85af05ae85ae05ad8,
  0x3fe83fe03fd820e03fb03fa83fa03f983f903f883f803f783f703f6820d820d055901e283e483e3020b01e20,
  0x5d98215021481e386160614821282630357835701e3063f8656065384b00402040184010400840003ff83ff0,
  0x30e847485e305e285e205e185e105e085e005df85df05de821585de05dd85dd05dc85dc05db85db05da85da0,
  0x32e832e032d832d032c832c032b832b032a832a021b821b01e4831a0318821a0193835a835a01e402f983110,
  0x1e58870086f8220873b873b01e5067986ae86ac05280335833503348334033383330332833203318331021c0,
  0x62a0629862906288628062786270626862602228625862506248624062386230622862206218621022202218,
  0xb300b280b2022b822b022a86c581e6822886c48a7b86c381e60afa0a7586c20a71873d8af4866b866a062a8,
  0xc180c10b4180bf80bf00be80be0b340b2f00bc80bc00bb80bb0b220b1c80b980b900b880b80b0f0b0980b38,
  0x235023481e8023282320aa50b4801e7879d08cb00b000af80af0b4600ae8b4580c580c500c480c400c280c20,
  0x8d3888f8b6d088e075408d00aad08ce88cd88cc80b680b600b580b5023682360]⟩

/-- The symbol that each reduction gives. -/
def reductionSymbol : Packed := ⟨555, 9, 39, #[
  0x371c4e17037dbadc6eb71c0df6eb71b6db6eb723b1c692b1acd55d475a904842994ccd66b399d6081bb5a6a6,
  0x46e32c863b198aa75ab45a2cf67b3d84bc6530d8751a8d46a35193c9ad368a7c0174f7802e9eedd6e389c2dd,
  0x30998bb8f2ba4aa791c82350f61b417ecc5e48970b75729d4f229046592c86331582bf5eae16ec45732d4eb6,
  0x542a0fc7e3f180c06030180be5f469bb2391c65c4be8d48e472391c69c4e06eaf95d258d29e472390469c10f,
  0x51260e798cea9f339d51a8d67b33a2dd10b0bfdff047f58675037ed19dad375badd4ea864bdd52f7559ecd50,
  0x57a5f2f97cbebf1f9e56e9d45a25168945984fe8f3da6d727f3caed7a8d4699cce954ca5b6ab6d989c49d114,
  0x3a1bedc6cb55f6e37abe1b940a04fa7343a1d0e8739add0e8743a1d7e913d9cd6e8542a150a8542a150ab55d,
  0x3c610ef95361b12ab53e9a8e97a3c9d8ec773cdd8d476445acd56e385cefa74385c6df71b71b2d56ab9dc6f8,
  0x54ea753aac2a150a8542a150b56dba050282c160b0582c160b0582c160b0582c16dd17835a2552a6bcaa1317,
  0x4361b0d85562b121ac555cd2896cb2570a6d359acda6b391c92e5ccba15538554e15538554e1553854baa753,
  0x54e14b9aa55ae937aa54972f6725066572bad964371abdb6711894c06030180c361b0d86c361b0d86c361b0d,
  0x48643707cdd2db558b4a6c8b0b65aeab169442a1559acd4e1559acd4e1559acd66b153acc2ae553855669354,
  0x42a150ab9c2a1d0e85429533bbbdc2150e8558ec4a9bb462156f5cae60ea9555a6cf6655aa952de85d262b73,
  0x2cd66aa924d6ab2959acd55559b4d2ab2894ad16755942cd5f0a8542a150a8543a150a8543a1d0a8542a1d0e,
  0xb2592bd64b1543796573]⟩

/-- The number of parts that each reduction takes. -/
def reductionCount : Packed := ⟨555, 4, 88, #[
  0x3333333332222222214365243132654321111134323266665555555544444433332211222112121433221110,
  0x3211221154332333311543432776559877557776444466666665533555553255552444424244444443333333,
  0x2337655555544444444433333333333333333333222222222222222221111222233322222121122222231322,
  0x4321165432111332a99843877665541232543331212233123222544333332335544444444444333333333322,
  0x6555524443533242223122322222222212254329887766554433284322211222744433212127665544332225,
  0x2211a99888777766666555552444445322333224232233332222112115623323113332222222988877776666,
  0x543333222444234433332233322]⟩

/-- The precedence of each reduction, plus one. -/
def reductionPrecedence : Packed := ⟨555, 1, 352, #[
  0xffffffffffffffffffffffffffffffffffffffffffffeffffffffffffffffffffffefffffffffffffffffff7,
  0x7ffffffffffffffffffffffffffffffffffffffffffffffffff]⟩

/-- The production of each reduction. -/
def reductionProduction : Packed := ⟨555, 7, 50, #[
  0x66ce5cb66cd52a54a8a1466cd02028513a128501030000000000800e080001122000000204080,
  0x980203e00000264c012220000f002c0000600000000000000000000000000000000000000000000000,
  0x1f0000380008cce950af2c046a40282066a951400023c68a010436681500000000078000396680000560002a,
  0xa14280073a200182e34600000002514010800a00000000223a488c022448508000000000000000,
  0x1d00007000070de1416cd512100000386ed9a80660000062c179e5c781003800006000001a32004800000000,
  0x1c00000000400d180003b00b40000038000003128000580000000001000003d040004f9d35d00013e74d,
  0x10020d6eb4b54801010000000c182ddb040ab56972d52054800154c000000000015000088000a00000000000,
  0x305bb75ab4b96a952004801600000e002800000000300000340000000002336eb56972d52a40801022f5a5aa,
  0x25e1ad5955d972c0209001500540102000180020440000000000004000000070000000000000000000000060,
  0x254900000125281f80000000020014824c0100000000020000006008001c800000028b00000000006240305b,
  0x1048404013c7c09e82680013256ac0203648100cf9b2e4c78ab5fbd72b4bb566c4b5556a53a33102a, 0x0]⟩

/-- What the parser does in each state. -/
def table : Table where
  actionRow := actionRow
  gotoRow := gotoRow
  lexMode := lexMode
  contextMode := contextMode
  actionBase := actionBase
  actionFirst := actionFirst
  actionColumns := actionColumns
  actionValue := actionValue
  gotoBase := gotoBase
  gotoFirst := gotoFirst
  gotoColumns := gotoColumns
  gotoValue := gotoValue
  tokenSet := tokenSet
  listFirst := listFirst
  listAction := listAction
  reductionSymbol := reductionSymbol
  reductionCount := reductionCount
  reductionPrecedence := reductionPrecedence
  reductionProduction := reductionProduction

end TypeScript

end CodeAtlas
