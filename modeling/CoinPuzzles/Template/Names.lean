/-!
# Template/Names — the templates that have a meaning here
-/

namespace CoinPuzzles.Template

def catV1 : String := "cat_v1"

def catV2 : String := "cat_v2"

def singletonTopLayer : String := "singleton_top_layer_v1_1"

def nftStateLayer : String := "nft_state_layer"

def nftOwnershipLayer : String := "nft_ownership_layer"

def nftTransferProgram : String :=
  "nft_ownership_transfer_program_one_way_claim_with_royalties"

def didInnerPuzzle : String := "did_innerpuz"

def genesisByCoinId : String := "genesis_by_coin_id"

def generator : String := "generator"

end CoinPuzzles.Template
