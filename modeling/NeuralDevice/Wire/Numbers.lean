import NeuralDevice.Code.OperandType
import NeuralDevice.Code.OperationType

/-! The numbers that messages of each version have for builtin types. What is not listed has no number there. -/

namespace NeuralDevice.Wire

def Hal.V1_0.operandNumbers : List (BuiltinOperand × Int32) :=
  [(.float32, 0), (.int32, 1), (.uint32, 2), (.tensorFloat32, 3), (.tensorInt32, 4), (.tensorQuant8Asymm, 5),
   (.oem, 10000), (.tensorOemByte, 10001)]

def Hal.V1_0.operationNumbers : List (BuiltinOperation × Int32) :=
  [(.add, 0), (.averagePool2d, 1), (.concatenation, 2), (.conv2d, 3), (.depthwiseConv2d, 4),
   (.depthToSpace, 5), (.dequantize, 6), (.embeddingLookup, 7), (.floor, 8), (.fullyConnected, 9),
   (.hashtableLookup, 10), (.l2Normalization, 11), (.l2Pool2d, 12), (.localResponseNormalization, 13),
   (.logistic, 14), (.lshProjection, 15), (.lstm, 16), (.maxPool2d, 17), (.mul, 18), (.relu, 19), (.relu1, 20),
   (.relu6, 21), (.reshape, 22), (.resizeBilinear, 23), (.rnn, 24), (.softmax, 25), (.spaceToDepth, 26),
   (.svdf, 27), (.tanh, 28), (.oem, 10000)]

def Hal.V1_2.operandNumbers : List (BuiltinOperand × Int32) :=
  [(.float32, 0), (.int32, 1), (.uint32, 2), (.tensorFloat32, 3), (.tensorInt32, 4), (.tensorQuant8Asymm, 5),
   (.bool, 6), (.tensorQuant16Symm, 7), (.tensorFloat16, 8), (.tensorBool8, 9), (.float16, 10),
   (.tensorQuant8SymmPerChannel, 11), (.tensorQuant16Asymm, 12), (.tensorQuant8Symm, 13), (.oem, 10000),
   (.tensorOemByte, 10001)]

def Hal.V1_2.operationNumbers : List (BuiltinOperation × Int32) :=
  [(.add, 0), (.averagePool2d, 1), (.concatenation, 2), (.conv2d, 3), (.depthwiseConv2d, 4),
   (.depthToSpace, 5), (.dequantize, 6), (.embeddingLookup, 7), (.floor, 8), (.fullyConnected, 9),
   (.hashtableLookup, 10), (.l2Normalization, 11), (.l2Pool2d, 12), (.localResponseNormalization, 13),
   (.logistic, 14), (.lshProjection, 15), (.lstm, 16), (.maxPool2d, 17), (.mul, 18), (.relu, 19), (.relu1, 20),
   (.relu6, 21), (.reshape, 22), (.resizeBilinear, 23), (.rnn, 24), (.softmax, 25), (.spaceToDepth, 26),
   (.svdf, 27), (.tanh, 28), (.batchToSpaceNd, 29), (.div, 30), (.mean, 31), (.pad, 32), (.spaceToBatchNd, 33),
   (.squeeze, 34), (.stridedSlice, 35), (.sub, 36), (.transpose, 37), (.abs, 38), (.argmax, 39), (.argmin, 40),
   (.axisAlignedBboxTransform, 41), (.bidirectionalSequenceLstm, 42), (.bidirectionalSequenceRnn, 43),
   (.boxWithNmsLimit, 44), (.cast, 45), (.channelShuffle, 46), (.detectionPostprocessing, 47), (.equal, 48),
   (.exp, 49), (.expandDims, 50), (.gather, 51), (.generateProposals, 52), (.greater, 53), (.greaterEqual, 54),
   (.groupedConv2d, 55), (.heatmapMaxKeypoint, 56), (.instanceNormalization, 57), (.less, 58),
   (.lessEqual, 59), (.log, 60), (.logicalAnd, 61), (.logicalNot, 62), (.logicalOr, 63), (.logSoftmax, 64),
   (.maximum, 65), (.minimum, 66), (.neg, 67), (.notEqual, 68), (.padV2, 69), (.pow, 70), (.prelu, 71),
   (.quantize, 72), (.quantized16bitLstm, 73), (.randomMultinomial, 74), (.reduceAll, 75), (.reduceAny, 76),
   (.reduceMax, 77), (.reduceMin, 78), (.reduceProd, 79), (.reduceSum, 80), (.roiAlign, 81), (.roiPooling, 82),
   (.rsqrt, 83), (.select, 84), (.sin, 85), (.slice, 86), (.split, 87), (.sqrt, 88), (.tile, 89),
   (.topkV2, 90), (.transposeConv2d, 91), (.unidirectionalSequenceLstm, 92), (.unidirectionalSequenceRnn, 93),
   (.resizeNearestNeighbor, 94), (.oem, 10000)]

def Aidl.operandNumbers : List (BuiltinOperand × Int32) :=
  [(.float32, 0), (.int32, 1), (.uint32, 2), (.tensorFloat32, 3), (.tensorInt32, 4), (.tensorQuant8Asymm, 5),
   (.bool, 6), (.tensorQuant16Symm, 7), (.tensorFloat16, 8), (.tensorBool8, 9), (.float16, 10),
   (.tensorQuant8SymmPerChannel, 11), (.tensorQuant16Asymm, 12), (.tensorQuant8Symm, 13),
   (.tensorQuant8AsymmSigned, 14), (.subgraph, 15)]

def Aidl.operationNumbers : List (BuiltinOperation × Int32) :=
  [(.add, 0), (.averagePool2d, 1), (.concatenation, 2), (.conv2d, 3), (.depthwiseConv2d, 4),
   (.depthToSpace, 5), (.dequantize, 6), (.embeddingLookup, 7), (.floor, 8), (.fullyConnected, 9),
   (.hashtableLookup, 10), (.l2Normalization, 11), (.l2Pool2d, 12), (.localResponseNormalization, 13),
   (.logistic, 14), (.lshProjection, 15), (.lstm, 16), (.maxPool2d, 17), (.mul, 18), (.relu, 19), (.relu1, 20),
   (.relu6, 21), (.reshape, 22), (.resizeBilinear, 23), (.rnn, 24), (.softmax, 25), (.spaceToDepth, 26),
   (.svdf, 27), (.tanh, 28), (.batchToSpaceNd, 29), (.div, 30), (.mean, 31), (.pad, 32), (.spaceToBatchNd, 33),
   (.squeeze, 34), (.stridedSlice, 35), (.sub, 36), (.transpose, 37), (.abs, 38), (.argmax, 39), (.argmin, 40),
   (.axisAlignedBboxTransform, 41), (.bidirectionalSequenceLstm, 42), (.bidirectionalSequenceRnn, 43),
   (.boxWithNmsLimit, 44), (.cast, 45), (.channelShuffle, 46), (.detectionPostprocessing, 47), (.equal, 48),
   (.exp, 49), (.expandDims, 50), (.gather, 51), (.generateProposals, 52), (.greater, 53), (.greaterEqual, 54),
   (.groupedConv2d, 55), (.heatmapMaxKeypoint, 56), (.instanceNormalization, 57), (.less, 58),
   (.lessEqual, 59), (.log, 60), (.logicalAnd, 61), (.logicalNot, 62), (.logicalOr, 63), (.logSoftmax, 64),
   (.maximum, 65), (.minimum, 66), (.neg, 67), (.notEqual, 68), (.padV2, 69), (.pow, 70), (.prelu, 71),
   (.quantize, 72), (.quantized16bitLstm, 73), (.randomMultinomial, 74), (.reduceAll, 75), (.reduceAny, 76),
   (.reduceMax, 77), (.reduceMin, 78), (.reduceProd, 79), (.reduceSum, 80), (.roiAlign, 81), (.roiPooling, 82),
   (.rsqrt, 83), (.select, 84), (.sin, 85), (.slice, 86), (.split, 87), (.sqrt, 88), (.tile, 89),
   (.topkV2, 90), (.transposeConv2d, 91), (.unidirectionalSequenceLstm, 92), (.unidirectionalSequenceRnn, 93),
   (.resizeNearestNeighbor, 94), (.quantizedLstm, 95), (.conditional, 96), (.whileLoop, 97), (.elu, 98),
   (.hardSwish, 99), (.fill, 100), (.rank, 101)]

end NeuralDevice.Wire
