import NeuralDevice.Code.Table

/-! The operations of a graph and their codes. -/

namespace NeuralDevice

/-- An operation every vendor knows by the same code. -/
inductive BuiltinOperation where
  | add
  | averagePool2d
  | concatenation
  | conv2d
  | depthwiseConv2d
  | depthToSpace
  | dequantize
  | embeddingLookup
  | floor
  | fullyConnected
  | hashtableLookup
  | l2Normalization
  | l2Pool2d
  | localResponseNormalization
  | logistic
  | lshProjection
  | lstm
  | maxPool2d
  | mul
  | relu
  | relu1
  | relu6
  | reshape
  | resizeBilinear
  | rnn
  | softmax
  | spaceToDepth
  | svdf
  | tanh
  | batchToSpaceNd
  | div
  | mean
  | pad
  | spaceToBatchNd
  | squeeze
  | stridedSlice
  | sub
  | transpose
  | abs
  | argmax
  | argmin
  | axisAlignedBboxTransform
  | bidirectionalSequenceLstm
  | bidirectionalSequenceRnn
  | boxWithNmsLimit
  | cast
  | channelShuffle
  | detectionPostprocessing
  | equal
  | exp
  | expandDims
  | gather
  | generateProposals
  | greater
  | greaterEqual
  | groupedConv2d
  | heatmapMaxKeypoint
  | instanceNormalization
  | less
  | lessEqual
  | log
  | logicalAnd
  | logicalNot
  | logicalOr
  | logSoftmax
  | maximum
  | minimum
  | neg
  | notEqual
  | padV2
  | pow
  | prelu
  | quantize
  | quantized16bitLstm
  | randomMultinomial
  | reduceAll
  | reduceAny
  | reduceMax
  | reduceMin
  | reduceProd
  | reduceSum
  | roiAlign
  | roiPooling
  | rsqrt
  | select
  | sin
  | slice
  | split
  | sqrt
  | tile
  | topkV2
  | transposeConv2d
  | unidirectionalSequenceLstm
  | unidirectionalSequenceRnn
  | resizeNearestNeighbor
  | quantizedLstm
  | conditional
  | whileLoop
  | elu
  | hardSwish
  | fill
  | rank
  | oem
  deriving DecidableEq, Repr

namespace BuiltinOperation

def all : List BuiltinOperation :=
  [.add, .averagePool2d, .concatenation, .conv2d, .depthwiseConv2d,
   .depthToSpace, .dequantize, .embeddingLookup, .floor, .fullyConnected,
   .hashtableLookup, .l2Normalization, .l2Pool2d, .localResponseNormalization, .logistic,
   .lshProjection, .lstm, .maxPool2d, .mul, .relu,
   .relu1, .relu6, .reshape, .resizeBilinear, .rnn,
   .softmax, .spaceToDepth, .svdf, .tanh, .batchToSpaceNd,
   .div, .mean, .pad, .spaceToBatchNd, .squeeze,
   .stridedSlice, .sub, .transpose, .abs, .argmax,
   .argmin, .axisAlignedBboxTransform, .bidirectionalSequenceLstm, .bidirectionalSequenceRnn, .boxWithNmsLimit,
   .cast, .channelShuffle, .detectionPostprocessing, .equal, .exp,
   .expandDims, .gather, .generateProposals, .greater, .greaterEqual,
   .groupedConv2d, .heatmapMaxKeypoint, .instanceNormalization, .less, .lessEqual,
   .log, .logicalAnd, .logicalNot, .logicalOr, .logSoftmax,
   .maximum, .minimum, .neg, .notEqual, .padV2,
   .pow, .prelu, .quantize, .quantized16bitLstm, .randomMultinomial,
   .reduceAll, .reduceAny, .reduceMax, .reduceMin, .reduceProd,
   .reduceSum, .roiAlign, .roiPooling, .rsqrt, .select,
   .sin, .slice, .split, .sqrt, .tile,
   .topkV2, .transposeConv2d, .unidirectionalSequenceLstm, .unidirectionalSequenceRnn, .resizeNearestNeighbor,
   .quantizedLstm, .conditional, .whileLoop, .elu, .hardSwish,
   .fill, .rank, .oem]

def code : BuiltinOperation → UInt32
  | .add => 0
  | .averagePool2d => 1
  | .concatenation => 2
  | .conv2d => 3
  | .depthwiseConv2d => 4
  | .depthToSpace => 5
  | .dequantize => 6
  | .embeddingLookup => 7
  | .floor => 8
  | .fullyConnected => 9
  | .hashtableLookup => 10
  | .l2Normalization => 11
  | .l2Pool2d => 12
  | .localResponseNormalization => 13
  | .logistic => 14
  | .lshProjection => 15
  | .lstm => 16
  | .maxPool2d => 17
  | .mul => 18
  | .relu => 19
  | .relu1 => 20
  | .relu6 => 21
  | .reshape => 22
  | .resizeBilinear => 23
  | .rnn => 24
  | .softmax => 25
  | .spaceToDepth => 26
  | .svdf => 27
  | .tanh => 28
  | .batchToSpaceNd => 29
  | .div => 30
  | .mean => 31
  | .pad => 32
  | .spaceToBatchNd => 33
  | .squeeze => 34
  | .stridedSlice => 35
  | .sub => 36
  | .transpose => 37
  | .abs => 38
  | .argmax => 39
  | .argmin => 40
  | .axisAlignedBboxTransform => 41
  | .bidirectionalSequenceLstm => 42
  | .bidirectionalSequenceRnn => 43
  | .boxWithNmsLimit => 44
  | .cast => 45
  | .channelShuffle => 46
  | .detectionPostprocessing => 47
  | .equal => 48
  | .exp => 49
  | .expandDims => 50
  | .gather => 51
  | .generateProposals => 52
  | .greater => 53
  | .greaterEqual => 54
  | .groupedConv2d => 55
  | .heatmapMaxKeypoint => 56
  | .instanceNormalization => 57
  | .less => 58
  | .lessEqual => 59
  | .log => 60
  | .logicalAnd => 61
  | .logicalNot => 62
  | .logicalOr => 63
  | .logSoftmax => 64
  | .maximum => 65
  | .minimum => 66
  | .neg => 67
  | .notEqual => 68
  | .padV2 => 69
  | .pow => 70
  | .prelu => 71
  | .quantize => 72
  | .quantized16bitLstm => 73
  | .randomMultinomial => 74
  | .reduceAll => 75
  | .reduceAny => 76
  | .reduceMax => 77
  | .reduceMin => 78
  | .reduceProd => 79
  | .reduceSum => 80
  | .roiAlign => 81
  | .roiPooling => 82
  | .rsqrt => 83
  | .select => 84
  | .sin => 85
  | .slice => 86
  | .split => 87
  | .sqrt => 88
  | .tile => 89
  | .topkV2 => 90
  | .transposeConv2d => 91
  | .unidirectionalSequenceLstm => 92
  | .unidirectionalSequenceRnn => 93
  | .resizeNearestNeighbor => 94
  | .quantizedLstm => 95
  | .conditional => 96
  | .whileLoop => 97
  | .elu => 98
  | .hardSwish => 99
  | .fill => 100
  | .rank => 101
  | .oem => 10000

def name : BuiltinOperation → String
  | .add => "ADD"
  | .averagePool2d => "AVERAGE_POOL2D"
  | .concatenation => "CONCATENATION"
  | .conv2d => "CONV2D"
  | .depthwiseConv2d => "DEPTHWISE_CONV2D"
  | .depthToSpace => "DEPTH_TO_SPACE"
  | .dequantize => "DEQUANTIZE"
  | .embeddingLookup => "EMBEDDING_LOOKUP"
  | .floor => "FLOOR"
  | .fullyConnected => "FULLY_CONNECTED"
  | .hashtableLookup => "HASHTABLE_LOOKUP"
  | .l2Normalization => "L2_NORMALIZATION"
  | .l2Pool2d => "L2_POOL2D"
  | .localResponseNormalization => "LOCAL_RESPONSE_NORMALIZATION"
  | .logistic => "LOGISTIC"
  | .lshProjection => "LSH_PROJECTION"
  | .lstm => "LSTM"
  | .maxPool2d => "MAX_POOL2D"
  | .mul => "MUL"
  | .relu => "RELU"
  | .relu1 => "RELU1"
  | .relu6 => "RELU6"
  | .reshape => "RESHAPE"
  | .resizeBilinear => "RESIZE_BILINEAR"
  | .rnn => "RNN"
  | .softmax => "SOFTMAX"
  | .spaceToDepth => "SPACE_TO_DEPTH"
  | .svdf => "SVDF"
  | .tanh => "TANH"
  | .batchToSpaceNd => "BATCH_TO_SPACE_ND"
  | .div => "DIV"
  | .mean => "MEAN"
  | .pad => "PAD"
  | .spaceToBatchNd => "SPACE_TO_BATCH_ND"
  | .squeeze => "SQUEEZE"
  | .stridedSlice => "STRIDED_SLICE"
  | .sub => "SUB"
  | .transpose => "TRANSPOSE"
  | .abs => "ABS"
  | .argmax => "ARGMAX"
  | .argmin => "ARGMIN"
  | .axisAlignedBboxTransform => "AXIS_ALIGNED_BBOX_TRANSFORM"
  | .bidirectionalSequenceLstm => "BIDIRECTIONAL_SEQUENCE_LSTM"
  | .bidirectionalSequenceRnn => "BIDIRECTIONAL_SEQUENCE_RNN"
  | .boxWithNmsLimit => "BOX_WITH_NMS_LIMIT"
  | .cast => "CAST"
  | .channelShuffle => "CHANNEL_SHUFFLE"
  | .detectionPostprocessing => "DETECTION_POSTPROCESSING"
  | .equal => "EQUAL"
  | .exp => "EXP"
  | .expandDims => "EXPAND_DIMS"
  | .gather => "GATHER"
  | .generateProposals => "GENERATE_PROPOSALS"
  | .greater => "GREATER"
  | .greaterEqual => "GREATER_EQUAL"
  | .groupedConv2d => "GROUPED_CONV2D"
  | .heatmapMaxKeypoint => "HEATMAP_MAX_KEYPOINT"
  | .instanceNormalization => "INSTANCE_NORMALIZATION"
  | .less => "LESS"
  | .lessEqual => "LESS_EQUAL"
  | .log => "LOG"
  | .logicalAnd => "LOGICAL_AND"
  | .logicalNot => "LOGICAL_NOT"
  | .logicalOr => "LOGICAL_OR"
  | .logSoftmax => "LOG_SOFTMAX"
  | .maximum => "MAXIMUM"
  | .minimum => "MINIMUM"
  | .neg => "NEG"
  | .notEqual => "NOT_EQUAL"
  | .padV2 => "PAD_V2"
  | .pow => "POW"
  | .prelu => "PRELU"
  | .quantize => "QUANTIZE"
  | .quantized16bitLstm => "QUANTIZED16BIT_LSTM"
  | .randomMultinomial => "RANDOM_MULTINOMIAL"
  | .reduceAll => "REDUCE_ALL"
  | .reduceAny => "REDUCE_ANY"
  | .reduceMax => "REDUCE_MAX"
  | .reduceMin => "REDUCE_MIN"
  | .reduceProd => "REDUCE_PROD"
  | .reduceSum => "REDUCE_SUM"
  | .roiAlign => "ROI_ALIGN"
  | .roiPooling => "ROI_POOLING"
  | .rsqrt => "RSQRT"
  | .select => "SELECT"
  | .sin => "SIN"
  | .slice => "SLICE"
  | .split => "SPLIT"
  | .sqrt => "SQRT"
  | .tile => "TILE"
  | .topkV2 => "TOPK_V2"
  | .transposeConv2d => "TRANSPOSE_CONV2D"
  | .unidirectionalSequenceLstm => "UNIDIRECTIONAL_SEQUENCE_LSTM"
  | .unidirectionalSequenceRnn => "UNIDIRECTIONAL_SEQUENCE_RNN"
  | .resizeNearestNeighbor => "RESIZE_NEAREST_NEIGHBOR"
  | .quantizedLstm => "QUANTIZED_LSTM"
  | .conditional => "IF"
  | .whileLoop => "WHILE"
  | .elu => "ELU"
  | .hardSwish => "HARD_SWISH"
  | .fill => "FILL"
  | .rank => "RANK"
  | .oem => "OEM_OPERATION"

/-- The oldest version that knows the operation. -/
def version (operation : BuiltinOperation) : Version :=
  let code := operation.code
  if code ≤ 28 then .v1_0
  else if code ≤ 37 then .v1_1
  else if code ≤ 94 then .v1_2
  else if code ≤ 101 then .v1_3
  else .v1_0

theorem find_code (operation : BuiltinOperation) :
    all.find? (fun candidate => candidate.code == operation.code) = some operation := by
  cases operation <;> rfl

theorem code_lt (operation : BuiltinOperation) : operation.code.toNat < UInt16.size := by
  cases operation <;> decide

end BuiltinOperation

instance : CodeTable BuiltinOperation where
  all := BuiltinOperation.all
  code := BuiltinOperation.code
  name := BuiltinOperation.name
  version := BuiltinOperation.version
  find_code := BuiltinOperation.find_code
  code_lt := BuiltinOperation.code_lt

/-- What a node of the graph computes. -/
abbrev OperationType := Coded BuiltinOperation

end NeuralDevice
