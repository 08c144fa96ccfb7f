/-!
# Names of pictographs
-/

namespace BoundQuery.Text.CharacterName

/-- The characters from `U+1F000` on: pictographs and the characters above them. -/
def pictographs : String := "
  a+1f000+MAHJONG TILE EAST WINDnSOUTH WINDnWEST WINDnNORTH WINDnRED DRAGONnGREEN DRAGON
  nWHITE DRAGONnONE OF CHARACTERSnTWO OF CHARACTERSoHREE OF CHARACTERSnFOUR OF CHARACTERS
  oIVE OF CHARACTERSnSIX OF CHARACTERSoEVEN OF CHARACTERSnEIGHT OF CHARACTERSnNINE OF CHARACTERS
  nONE OF BAMBOOSnTWO OF BAMBOOSoHREE OF BAMBOOSnFOUR OF BAMBOOSoIVE OF BAMBOOSnSIX OF BAMBOOS
  oEVEN OF BAMBOOSnEIGHT OF BAMBOOSnNINE OF BAMBOOSnONE OF CIRCLESnTWO OF CIRCLESoHREE OF CIRCLES
  nFOUR OF CIRCLESoIVE OF CIRCLESnSIX OF CIRCLESoEVEN OF CIRCLESnEIGHT OF CIRCLESnNINE OF CIRCLES
  nPLUMnORCHIDnBAMBOOnCHRYSANTHEMUMnSPRINGoUMMERnAUTUMNnWINTERnJOKERnBACK
  a+5+DOMINO TILE HORIZONTAL BACKw-00-00bb1bb2bb3bb4bb5bb6y1-00bb1bb2bb3bb4bb5bb6y2-00bb1bb2bb3bb4
  bb5bb6y3-00bb1bb2bb3bb4bb5bb6y4-00bb1bb2bb3bb4bb5bb6y5-00bb1bb2bb3bb4bb5bb6y6-00bb1bb2bb3bb4bb5bb6
  mVERTICAL BACKu-00-00z1z2z3z4z5z6w1-00z1z2z3z4z5z6w2-00z1z2z3z4z5z6w3-00z1z2z3z4z5z6w4-00z1z2z3z4
  z5z6w5-00z1z2z3z4z5z6w6-00z1z2z3z4z5z6a+d+PLAYING CARD BACKnACE OF SPADESnTWO OF SPADES
  oHREE OF SPADESnFOUR OF SPADESoIVE OF SPADESnSIX OF SPADESoEVEN OF SPADESnEIGHT OF SPADES
  nNINE OF SPADESnTEN OF SPADESnJACK OF SPADESnKNIGHT OF SPADESnQUEEN OF SPADESnKING OF SPADES
  n+3+ACE OF HEARTSnTWO OF HEARTSoHREE OF HEARTSnFOUR OF HEARTSoIVE OF HEARTSnSIX OF HEARTS
  oEVEN OF HEARTSnEIGHT OF HEARTSnNINE OF HEARTSnTEN OF HEARTSnJACK OF HEARTSnKNIGHT OF HEARTS
  nQUEEN OF HEARTSnKING OF HEARTSnRED JOKERn+2+ACE OF DIAMONDSnTWO OF DIAMONDSoHREE OF DIAMONDS
  nFOUR OF DIAMONDSoIVE OF DIAMONDSnSIX OF DIAMONDSoEVEN OF DIAMONDSnEIGHT OF DIAMONDS
  nNINE OF DIAMONDSnTEN OF DIAMONDSnJACK OF DIAMONDSnKNIGHT OF DIAMONDSnQUEEN OF DIAMONDS
  nKING OF DIAMONDSnBLACK JOKERn+2+ACE OF CLUBSnTWO OF CLUBSoHREE OF CLUBSnFOUR OF CLUBS
  oIVE OF CLUBSnSIX OF CLUBSoEVEN OF CLUBSnEIGHT OF CLUBSnNINE OF CLUBSnTEN OF CLUBSnJACK OF CLUBS
  nKNIGHT OF CLUBSnQUEEN OF CLUBSnKING OF CLUBSnWHITE JOKERnFOOLnTRUMP-1t2t3t4t5t6t7t8t9t10u1u2u3u4
  u5u6u7u8u9t20u1a+b+DIGIT ZERO FULL STOPlCOMMAgONE COMMAgTWO COMMAhHREE COMMAgFOUR COMMAhIVE COMMA
  gSIX COMMAhEVEN COMMAgEIGHT COMMAgNINE COMMAcNGBAT CIRCLED SANS-SERIF DIGIT ZERO
  iNEGATIVE CIRCLED SANS-SERIF DIGIT ZEROaCIRCLED ZERO WITH SLASHiANTICLOCKWISE ARROW
  iDOLLAR SIGN WITH OVERLAID BACKSLASHaPARENTHESIZED LATIN CAPITAL LETTER AbjBbjCbjDbjEbjFbjGbjHbjI
  bjJbjKbjLbjMbjNbjObjPbjQbjRbjSbjTbjUbjVbjWbjXbjYbjZ
  aTORTOISE SHELL BRACKETED LATIN CAPITAL LETTER SaCIRCLED ITALIC LATIN CAPITAL LETTER CbkRiCDiWZ
  bOPYLEFT SYMBOLaSQUARED LATIN CAPITAL LETTER AbdBbdCbdDbdEbdFbdGbdHbdIbdJbdKbdLbdMbdNbdObdPbdQbdR
  bdSbdTbdUbdVbdWbdXbdYbdZiHViMViSDjSiPPViWCaNEGATIVE CIRCLED LATIN CAPITAL LETTER AbmBbmCbmDbmEbmF
  bmGbmHbmIbmJbmKbmLbmMbmNbmObmPbmQbmRbmSbmTbmUbmVbmWbmXbmYbmZaRAISED MC SIGNiD SIGNiR SIGN
  aCIRCLED CCj WITH OVERLAID BACKSLASHiHUMAN FIGUREaNEGATIVE SQUARED LATIN CAPITAL LETTER AbmBbmCbmD
  bmEbmFbmGbmHbmIbmJbmKbmLbmMbmNbmObmPbmQbmRbmSbmTbmUbmVbmWbmXbmYbmZ
  aCROSSED NEGATIVE SQUARED LATIN CAPITAL LETTER PaNEGATIVE SQUARED ICrPArSArABrWCaSQUARE DJgD CL
  jOOLiFREEiIDiNEWjGiOKiSOSiUP WITH EXCLAMATION MARKiVSiTHREE DiSECOND SCREENiTWO KiFOUR KiEIGHT K
  iFIVE POINT ONEiSEVEN POINT ONEiTWENTY-TWO POINT TWOiSIXTY PiONE HUNDRED TWENTY P
  iLATIN SMALL LETTER DiHCjDRjI-RESiLOSSLESSiSHViUHDiVODaMASK WORK SYMBOL
  a+39+REGIONAL INDICATOR SYMBOL LETTER AbhBbhCbhDbhEbhFbhGbhHbhIbhJbhKbhLbhMbhNbhObhPbhQbhRbhSbhT
  bhUbhVbhWbhXbhYbhZaSQUARE HIRAGANA HOKAgD KATAKANA KOKOrSAi+e+CJK UNIFIED IDEOGRAPH-624Bbe5B57
  bf3CCiKATAKANA DEiCJK UNIFIED IDEOGRAPH-4E8Cbe591Abe89E3be5929be4EA4be6620be7121be6599be524DbfF8C
  bf18Dbe65B0be521Dbe7D42bf51Fbe8CA9be58F0bf439be6F14bf295bf355be4E00bh9be904Abe5DE6be4E2Dbe53F3
  be6307be8D70be6253be7981bfA7Abe5408be6E80bf709bh8be7533be5272bf5B6be914D
  a+5+TORTOISE SHELL BRACKETED CJK UNIFIED IDEOGRAPH-672Cbv4E09bx8Cbv5B89bv70B9bv6253bv76D7bv52DD
  bv6557a+8+CIRCLED IDEOGRAPH ADVANTAGEtCCEPTa+f+ROUNDED SYMBOL FOR FUtLUtSHOUtXItSHUANGXItCAI
  a+9b+CYCLONEaFOGGYaCLOSED UMBRELLAaNIGHT WITH STARSaSUNRISE OVER MOUNTAINSh,aCITYSCAPE AT DUSK
  aSUNSET OVER BUILDINGSaRAINBOWaBRIDGE AT NIGHTaWATER WAVEaVOLCANOaMILKY WAY
  aEARTH GLOBE EUROPE-AFRICAmAMERICASnSIA-AUSTRALIAaGLOBE WITH MERIDIANSaNEW MOON SYMBOL
  aWAXING CRESCENT MOON SYMBOLaFIRST QUARTER MOON SYMBOLaWAXING GIBBOUS MOON SYMBOLaFULL MOON SYMBOL
  aWANING GIBBOUS MOON SYMBOLaLAST QUARTER MOON SYMBOLaWANING CRESCENT MOON SYMBOLaCRESCENT MOON
  aNEW MOON WITH FACEaFIRST QUARTER MOON WITH FACEaLAST QUARTER MOON WITH FACEaFULL MOON WITH FACE
  aSUN WITH FACEaGLOWING STARaSHOOTING STARaTHERMOMETERaBLACK DROPLETaWHITE SUNj WITH SMALL CLOUD
  kBEHIND CLOUDw WITH RAINaCLOUD WITH RAINlSNOWlLIGHTNINGlTORNADOaFOGaWIND BLOWING FACEaHOT DOGaTACO
  aBURRITOaCHESTNUTaSEEDLINGaEVERGREEN TREEaDECIDUOUS TREEaPALM TREEaCACTUSaHOT PEPPERaTULIP
  aCHERRY BLOSSOMaROSEaHIBISCUSaSUNFLOWERaBLOSSOMaEAR OF MAIZEhRICEaHERBaFOUR LEAF CLOVERaMAPLE LEAF
  aFALLEN LEAFaLEAF FLUTTERING IN WINDaMUSHROOMaTOMATOaAUBERGINEaGRAPESaMELONaWATERMELONaTANGERINE
  aLEMONaBANANAaPINEAPPLEaRED APPLEaGREEN APPLEaPEARdCHaCHERRIESaSTRAWBERRYaHAMBURGERaSLICE OF PIZZA
  aMEAT ON BONEaPOULTRY LEGaRICE CRACKERfBALLaCOOKED RICEbURRY AND RICEaSTEAMING BOWLbPAGHETTIaBREAD
  aFRENCH FRIESaROASTED SWEET POTATOaDANGOaODENaSUSHIaFRIED SHRIMPbISH CAKE WITH SWIRL DESIGN
  aSOFT ICE CREAMbHAVED ICEaICE CREAMaDOUGHNUTaCOOKIEbHOCOLATE BARbANDYaLOLLIPOPaCUSTARDaHONEY POT
  aSHORTCAKEaBENTO BOXaPOT OF FOODaCOOKINGaFORK AND KNIFEaTEACUP WITHOUT HANDLEaSAKE BOTTLE AND CUP
  aWINE GLASSaCOCKTAIL GLASSaTROPICAL DRINKaBEER MUGaCLINKING BEER MUGSaBABY BOTTLE
  aFORK AND KNIFE WITH PLATEaBOTTLE WITH POPPING CORKaPOPCORNaRIBBONaWRAPPED PRESENTaBIRTHDAY CAKE
  aJACK-O-LANTERNaCHRISTMAS TREEaFATHER CHRISTMASbIREWORKSi SPARKLERaBALLOONaPARTY POPPER
  aCONFETTI BALLaTANABATA TREEaCROSSED FLAGSaPINE DECORATIONaJAPANESE DOLLSaCARP STREAMERaWIND CHIME
  aMOON VIEWING CEREMONYaSCHOOL SATCHELaGRADUATION CAPaHEART WITH TIP ON THE LEFTaBOUQUET OF FLOWERS
  aMILITARY MEDALaREMINDER RIBBONaMUSICAL KEYBOARD WITH JACKSaSTUDIO MICROPHONEaLEVEL SLIDER
  aCONTROL KNOBSaBEAMED ASCENDING MUSICAL NOTEShDESCENDING MUSICAL NOTESaFILM FRAMES
  aADMISSION TICKETSaCAROUSEL HORSEaFERRIS WHEELaROLLER COASTERaFISHING POLE AND FISHaMICROPHONE
  bOVIE CAMERAaCINEMAaHEADPHONEaARTIST PALETTEaTOP HATaCIRCUS TENTaTICKETaCLAPPER BOARD
  aPERFORMING ARTSaVIDEO GAMEaDIRECT HITaSLOT MACHINEaBILLIARDSaGAME DIEaBOWLING
  aFLOWER PLAYING CARDSaMUSICAL NOTEcLTIPLE MUSICAL NOTESaSAXOPHONEaGUITARaMUSICAL KEYBOARDaTRUMPET
  aVIOLINaMUSICAL SCOREaRUNNING SHIRT WITH SASHaTENNIS RACQUET AND BALLaSKI AND SKI BOOT
  aBASKETBALL AND HOOPaCHEQUERED FLAGaSNOWBOARDERaRUNNERaSURFERbPORTS MEDALaTROPHYaHORSE RACING
  aAMERICAN FOOTBALLaRUGBY FOOTBALLaSWIMMERaWEIGHT LIFTERaGOLFERaRACING MOTORCYCLEhCAR
  aCRICKET BAT AND BALLaVOLLEYBALLaFIELD HOCKEY STICK AND BALLaICE HOCKEY STICK AND PUCK
  aTABLE TENNIS PADDLE AND BALLaSNOW CAPPED MOUNTAINaCAMPINGaBEACH WITH UMBRELLA
  bUILDING CONSTRUCTIONaHOUSE BUILDINGSaCITYSCAPEaDERELICT HOUSE BUILDINGaCLASSICAL BUILDINGaDESERT
  g ISLANDaNATIONAL PARKaSTADIUMaHOUSE BUILDINGgWITH GARDENaOFFICE BUILDINGaJAPANESE POST OFFICE
  aEUROPEAN POST OFFICEaHOSPITALaBANKaAUTOMATED TELLER MACHINEaHOTELaLOVE HOTELaCONVENIENCE STORE
  aSCHOOLaDEPARTMENT STOREaFACTORYaIZAKAYA LANTERNaJAPANESE CASTLEaEUROPEAN CASTLEaWHITE PENNANT
  aBLACK PENNANTaWAVING WHITE FLAGhBLACK FLAGaROSETTEaBLACK ROSETTEaLABEL
  aBADMINTON RACQUET AND SHUTTLECOCKbOW AND ARROWaAMPHORAaEMOJI MODIFIER FITZPATRICK TYPE-1-2bg3bg4
  bg5bg6aRATaMOUSEaOXaWATER BUFFALOaCOWaTIGERaLEOPARDaRABBITaCATaDRAGONaCROCODILEaWHALEaSNAILdKE
  aHORSEaRAMaGOATaSHEEPaMONKEYaROOSTERaCHICKENaDOGaPIGaBOARaELEPHANTaOCTOPUSaSPIRAL SHELLaBUGaANT
  aHONEYBEEaLADY BEETLEaFISHaTROPICAL FISHaBLOWFISHaTURTLEaHATCHING CHICKaBABY CHICK
  aFRONT-FACING BABY CHICKaBIRDaPENGUINaKOALAaPOODLEaDROMEDARY CAMELaBACTRIAN CAMELaDOLPHIN
  aMOUSE FACEaCOW FACEaTIGER FACEaRABBIT FACEaCAT FACEaDRAGON FACEaSPOUTING WHALEaHORSE FACE
  aMONKEY FACEaDOG FACEaPIG FACEaFROG FACEaHAMSTER FACEaWOLF FACEaBEAR FACEaPANDA FACEbIG NOSE
  bAW PRINTSaCHIPMUNKaEYESd,bARaNOSEaMOUTHaTONGUEaWHITE UP POINTING BACKHAND INDEX
  gDOWN POINTING BACKHAND INDEXgLEFT POINTING BACKHAND INDEXgRIGHT POINTING BACKHAND INDEX
  aFISTED HAND SIGNaWAVING HAND SIGNaOK HAND SIGNaTHUMBS UP SIGNhDOWN SIGNaCLAPPING HANDS SIGN
  aOPEN HANDS SIGNaCROWNaWOMANS HATaEYEGLASSESaNECKTIEaT-SHIRTaJEANSaDRESSaKIMONOaBIKINI
  aWOMANS CLOTHESaPURSEaHANDBAGaPOUCHaMANS SHOEaATHLETIC SHOEaHIGH-HEELED SHOEaWOMANS SANDALhBOOTS
  aFOOTPRINTSaBUST IN SILHOUETTEeS IN SILHOUETTEbOYaGIRLaMANaWOMANaFAMILY
  aMAN AND WOMAN HOLDING HANDSaTWO MEN HOLDING HANDSeWOMEN HOLDING HANDSaPOLICE OFFICER
  aWOMAN WITH BUNNY EARSaBRIDE WITH VEILaPERSON WITH BLOND HAIRaMAN WITH GUA PI MAOjTURBANaOLDER MAN
  gWOMANaBABYaCONSTRUCTION WORKERaPRINCESSaJAPANESE OGREjGOBLINaGHOSTaBABY ANGEL
  aEXTRATERRESTRIAL ALIENaALIEN MONSTERaIMPaSKULLaINFORMATION DESK PERSONaGUARDSMANaDANCERaLIPSTICK
  aNAIL POLISHaFACE MASSAGEaHAIRCUTaBARBER POLEaSYRINGEaPILLaKISS MARKaLOVE LETTERaRINGaGEM STONE
  aKISSaBOUQUETaCOUPLE WITH HEARTaWEDDINGaBEATING HEARTbROKEN HEARTaTWO HEARTSaSPARKLING HEART
  aGROWING HEARTaHEART WITH ARROWaBLUE HEARTaGREEN HEARTaYELLOW HEARTaPURPLE HEARTaHEART WITH RIBBON
  aREVOLVING HEARTSaHEART DECORATIONaDIAMOND SHAPE WITH A DOT INSIDEaELECTRIC LIGHT BULB
  aANGER SYMBOLaBOMBaSLEEPING SYMBOLaCOLLISION SYMBOLaSPLASHING SWEAT SYMBOLaDROPLETbASH SYMBOL
  aPILE OF POOaFLEXED BICEPSaDIZZY SYMBOLaSPEECH BALLOONaTHOUGHT BALLOONaWHITE FLOWER
  aHUNDRED POINTS SYMBOLaMONEY BAGaCURRENCY EXCHANGEaHEAVY DOLLAR SIGNaCREDIT CARD
  aBANKNOTE WITH YEN SIGNoDOLLAR SIGNoEURO SIGNoPOUND SIGNaMONEY WITH WINGS
  aCHART WITH UPWARDS TREND AND YEN SIGNaSEATaPERSONAL COMPUTERaBRIEFCASEaMINIDISCaFLOPPY DISK
  aOPTICAL DISCaDVDaFILE FOLDERaOPEN FILE FOLDERaPAGE WITH CURLfFACING UPaCALENDARaTEAR-OFF CALENDAR
  aCARD INDEXbHART WITH UPWARDS TRENDlDOWNWARDS TRENDaBAR CHARTaCLIPBOARDaPUSHPINaROUND PUSHPIN
  aPAPERCLIPaSTRAIGHT RULERaTRIANGULAR RULERaBOOKMARK TABSaLEDGERaNOTEBOOKi WITH DECORATIVE COVER
  aCLOSED BOOKaOPEN BOOKaGREEN BOOKaBLUE BOOKaORANGE BOOKaBOOKSaNAME BADGEaSCROLLaMEMO
  aTELEPHONE RECEIVERaPAGERaFAX MACHINEaSATELLITE ANTENNAaPUBLIC ADDRESS LOUDSPEAKER
  aCHEERING MEGAPHONEaOUTBOX TRAYaINBOX TRAYaPACKAGEaE-MAIL SYMBOLaINCOMING ENVELOPE
  aENVELOPE WITH DOWNWARDS ARROW ABOVEaCLOSED MAILBOX WITH LOWERED FLAGuRAISED FLAG
  aOPEN MAILBOX WITH RAISED FLAGsLOWERED FLAGaPOSTBOXeAL HORNaNEWSPAPERaMOBILE PHONE
  m WITH RIGHTWARDS ARROW AT LEFTaVIBRATION MODEaMOBILE PHONE OFFaNO MOBILE PHONESaANTENNA WITH BARS
  aCAMERAg WITH FLASHaVIDEO CAMERAaTELEVISIONaRADIOaVIDEOCASSETTEaFILM PROJECTORaPORTABLE STEREO
  bRAYER BEADSaTWISTED RIGHTWARDS ARROWSaCLOCKWISE RIGHTWARDS AND LEFTWARDS OPEN CIRCLE ARROWS
  cb WITH CIRCLED ONE OVERLAYkDOWNWARDS AND UPWARDS OPEN CIRCLE ARROWS
  aANTICLOCKWISE DOWNWARDS AND UPWARDS OPEN CIRCLE ARROWSaLOW BRIGHTNESS SYMBOL
  aHIGH BRIGHTNESS SYMBOLaSPEAKER WITH CANCELLATION STROKEh,h WITH ONE SOUND WAVEnTHREE SOUND WAVES
  aBATTERYaELECTRIC PLUGaLEFT-POINTING MAGNIFYING GLASSaRIGHT-POINTING MAGNIFYING GLASS
  aLOCK WITH INK PENaCLOSED LOCK WITH KEYaKEYaLOCKaOPEN LOCKaBELLe WITH CANCELLATION STROKEbOOKMARK
  aLINK SYMBOLaRADIO BUTTONaBACK WITH LEFTWARDS ARROW ABOVEaEND WITH LEFTWARDS ARROW ABOVE
  aON WITH EXCLAMATION MARK WITH LEFT RIGHT ARROW ABOVEaSOON WITH RIGHTWARDS ARROW ABOVE
  aTOP WITH UPWARDS ARROW ABOVEaNO ONE UNDER EIGHTEEN SYMBOLaKEYCAP TEN
  aINPUT SYMBOL FOR LATIN CAPITAL LETTERSxSMALL LETTERSrNUMBERSrSYMBOLSrLATIN LETTERSaFIRE
  aELECTRIC TORCHaWRENCHaHAMMERaNUT AND BOLTaHOCHOaPISTOLaMICROSCOPEaTELESCOPEaCRYSTAL BALL
  aSIX POINTED STAR WITH MIDDLE DOTaJAPANESE SYMBOL FOR BEGINNERaTRIDENT EMBLEMaBLACK SQUARE BUTTON
  aWHITE SQUARE BUTTONaLARGE RED CIRCLEgBLUE CIRCLEgORANGE DIAMONDgBLUE DIAMONDaSMALL ORANGE DIAMOND
  gBLUE DIAMONDaUP-POINTING RED TRIANGLEaDOWN-POINTING RED TRIANGLEaUP-POINTING SMALL RED TRIANGLE
  aDOWN-POINTING SMALL RED TRIANGLEaLOWER RIGHT SHADOWED WHITE CIRCLE
  aUPPER RIGHT SHADOWED WHITE CIRCLEaCIRCLED CROSS POMMEEbROSS POMMEE WITH HALF-CIRCLE BELOWm,
  aNOTCHED LEFT SEMICIRCLE WITH THREE DOTSiRIGHT SEMICIRCLE WITH THREE DOTSaSYMBOL FOR MARKS CHAPTER
  aWHITE LATIN CROSSaHEAVY LATIN CROSSaCELTIC CROSSaOM SYMBOLaDOVE OF PEACEaKAABAaMOSQUEaSYNAGOGUE
  aMENORAH WITH NINE BRANCHESaBOWL OF HYGIEIAaCLOCK FACE ONE OCLOCKlTWO OCLOCKmHREE OCLOCK
  lFOUR OCLOCKmIVE OCLOCKlSIX OCLOCKmEVEN OCLOCKlEIGHT OCLOCKlNINE OCLOCKlTEN OCLOCKlELEVEN OCLOCK
  lTWELVE OCLOCKlONE-THIRTYlTWO-THIRTYmHREE-THIRTYlFOUR-THIRTYmIVE-THIRTYlSIX-THIRTYmEVEN-THIRTY
  lEIGHT-THIRTYlNINE-THIRTYlTEN-THIRTYlELEVEN-THIRTYlTWELVE-THIRTYaRIGHT SPEAKER
  n WITH ONE SOUND WAVEtTHREE SOUND WAVESaBULLHORNi WITH SOUND WAVESaRINGING BELLaBOOKaCANDLE
  aMANTELPIECE CLOCKaBLACK SKULL AND CROSSBONESaNO PIRACYaHOLEaMAN IN BUSINESS SUIT LEVITATING
  aSLEUTH OR SPYaDARK SUNGLASSESaSPIDERg WEBaJOYSTICKaMAN DANCINGaLEFT HAND TELEPHONE RECEIVER
  aTELEPHONE RECEIVER WITH PAGEaRIGHT HAND TELEPHONE RECEIVERaWHITE TOUCHTONE TELEPHONE
  aBLACK TOUCHTONE TELEPHONEaTELEPHONE ON TOP OF MODEMaCLAMSHELL MOBILE PHONEaBACK OF ENVELOPE
  aSTAMPED ENVELOPEaENVELOPE WITH LIGHTNINGaFLYING ENVELOPEaPEN OVER STAMPED ENVELOPE
  aLINKED PAPERCLIPSaBLACK PUSHPINaLOWER LEFT PENCILlBALLPOINT PENlFOUNTAIN PENlPAINTBRUSHlCRAYON
  bEFT WRITING HANDaTURNED OK HAND SIGNaRAISED HAND WITH FINGERS SPLAYED
  bEVERSED RAISED HAND WITH FINGERS SPLAYEDjTHUMBS UP SIGNqDOWN SIGNjVICTORY HAND
  jHAND WITH MIDDLE FINGER EXTENDEDbAISED HAND WITH PART BETWEEN MIDDLE AND RING FINGERS
  aWHITE DOWN POINTING LEFT HAND INDEXaSIDEWAYS WHITE LEFT POINTING INDEXpRIGHT POINTING INDEX
  jBLACK LEFT POINTING INDEXpRIGHT POINTING INDEXaBLACK LEFT POINTING BACKHAND INDEX
  gRIGHT POINTING BACKHAND INDEXaSIDEWAYS WHITE UP POINTING INDEXpDOWN POINTING INDEX
  jBLACK UP POINTING INDEXpDOWN POINTING INDEXaBLACK UP POINTING BACKHAND INDEX
  gDOWN POINTING BACKHAND INDEXgHEARTaDESKTOP COMPUTERaKEYBOARD AND MOUSEaTHREE NETWORKED COMPUTERS
  aPRINTERbOCKET CALCULATORaBLACK HARD SHELL FLOPPY DISKaWHITE HARD SHELL FLOPPY DISK
  aSOFT SHELL FLOPPY DISKaTAPE CARTRIDGEaWIRED KEYBOARDaONE BUTTON MOUSEaTWO BUTTON MOUSE
  bHREE BUTTON MOUSEbRACKBALLaOLD PERSONAL COMPUTERaHARD DISKaSCREENaPRINTER ICONaFAX ICON
  aOPTICAL DISC ICONaDOCUMENT WITH TEXTs AND PICTUREoPICTUREaFRAME WITH PICTURElTILESlAN X
  aBLACK FOLDERaFOLDERaOPEN FOLDERaCARD INDEX DIVIDERSfFILE BOXaFILE CABINETaEMPTY NOTEk PAGEnDaNOTE
  e PAGEhDaEMPTY DOCUMENTgPAGEkSaDOCUMENTaPAGEeSaWASTEBASKETaSPIRAL NOTE PADhCALENDAR PAD
  aDESKTOP WINDOWaMINIMIZEbAXIMIZEaOVERLAPaCLOCKWISE RIGHT AND LEFT SEMICIRCLE ARROWSbANCELLATION X
  aINCREASE FONT SIZE SYMBOLaDECREASE FONT SIZE SYMBOLaCOMPRESSIONaOLD KEYaROLLED-UP NEWSPAPER
  aPAGE WITH CIRCLED TEXTaSTOCK CHARTaDAGGER KNIFEaLIPSaSPEAKING HEAD IN SILHOUETTEaTHREE RAYS ABOVE
  lBELOWlLEFTlRIGHTaLEFT SPEECH BUBBLEaRIGHT SPEECH BUBBLEaTWO SPEECH BUBBLESbHREE SPEECH BUBBLES
  aLEFT THOUGHT BUBBLEaRIGHT THOUGHT BUBBLEaLEFT ANGER BUBBLEaRIGHT ANGER BUBBLEaMOOD BUBBLE
  aLIGHTNING MOOD BUBBLEo,aBALLOT BOX WITH BALLOThSCRIPT XhBOX WITH SCRIPT XjLD SCRIPT X
  jX WITH BOLD SCRIPT XaLIGHT CHECK MARKaBALLOT BOX WITH BOLD CHECKaWORLD MAPaMOUNT FUJIaTOKYO TOWER
  aSTATUE OF LIBERTYbILHOUETTE OF JAPANaMOYAIaGRINNING FACEn WITH SMILING EYES
  aFACE WITH TEARS OF JOYaSMILING FACE WITH OPEN MOUTHbc AND SMILING EYESbhCOLD SWEAT
  bhTIGHTLY-CLOSED EYESsHALOtORNSaWINKING FACEaSMILING FACE WITH SMILING EYES
  aFACE SAVOURING DELICIOUS FOODaRELIEVED FACEaSMILING FACE WITH HEART-SHAPED EYESsSUNGLASSES
  dRKING FACEaNEUTRAL FACEaEXPRESSIONLESS FACEaUNAMUSED FACEaFACE WITH COLD SWEATaPENSIVE FACE
  aCONFUSED FACEeOUNDED FACEaKISSING FACEaFACE THROWING A KISSaKISSING FACE WITH SMILING EYES
  sCLOSED EYESaFACE WITH STUCK-OUT TONGUEba AND WINKING EYEbfTIGHTLY-CLOSED EYESaDISAPPOINTED FACE
  aWORRIED FACEaANGRY FACEaPOUTING FACEaCRYING FACEaPERSEVERING FACEaFACE WITH LOOK OF TRIUMPH
  aDISAPPOINTED BUT RELIEVED FACEaFROWNING FACE WITH OPEN MOUTHaANGUISHED FACEaFEARFUL FACE
  aWEARY FACEaSLEEPY FACEaTIRED FACEaGRIMACING FACEaLOUDLY CRYING FACEaFACE WITH OPEN MOUTH
  aHUSHED FACEaFACE WITH OPEN MOUTH AND COLD SWEATfSCREAMING IN FEARaASTONISHED FACEaFLUSHED FACE
  aSLEEPING FACEaDIZZY FACEaFACE WITHOUT MOUTHj MEDICAL MASKaGRINNING CAT FACE WITH SMILING EYES
  aCAT FACE WITH TEARS OF JOYaSMILING CAT FACE WITH OPEN MOUTHwHEART-SHAPED EYES
  aCAT FACE WITH WRY SMILEaKISSING CAT FACE WITH CLOSED EYESaPOUTING CAT FACEaCRYING CAT FACE
  aWEARY CAT FACEaSLIGHTLY FROWNING FACEjSMILING FACEaUPSIDE-DOWN FACEaFACE WITH ROLLING EYES
  kNO GOOD GESTUREkOK GESTUREaPERSON BOWING DEEPLYaSEE-NO-EVIL MONKEYaHEAR-NO-EVIL MONKEY
  aSPEAK-NO-EVIL MONKEYaHAPPY PERSON RAISING ONE HANDaPERSON RAISING BOTH HANDS IN CELEBRATION
  hFROWNINGhWITH POUTING FACEmFOLDED HANDSaNORTH WEST POINTING LEAFaSOUTH WEST POINTING LEAF
  aNORTH EAST POINTING LEAFaSOUTH EAST POINTING LEAFaTURNED NORTH WEST POINTING LEAF
  hSOUTH WEST POINTING LEAFhNORTH EAST POINTING LEAFhSOUTH EAST POINTING LEAF
  aNORTH WEST POINTING VINE LEAFaSOUTH WEST POINTING VINE LEAFaNORTH EAST POINTING VINE LEAF
  aSOUTH EAST POINTING VINE LEAFaHEAVY NORTH WEST POINTING VINE LEAFgSOUTH WEST POINTING VINE LEAF
  gNORTH EAST POINTING VINE LEAFgSOUTH EAST POINTING VINE LEAFaNORTH WEST POINTING BUD
  aSOUTH WEST POINTING BUDaNORTH EAST POINTING BUDaSOUTH EAST POINTING BUD
  aHEAVY NORTH WEST POINTING BUDgSOUTH WEST POINTING BUDgNORTH EAST POINTING BUD
  gSOUTH EAST POINTING BUDbOLLOW QUILT SQUARE ORNAMENTbc IN BLACK SQUAREaSOLID QUILT SQUARE ORNAMENT
  bb IN BLACK SQUAREaLEFTWARDS ROCKETaUPWARDS ROCKETaRIGHTWARDS ROCKETaDOWNWARDS ROCKET
  aSCRIPT LIGATURE ET ORNAMENTaHEAVY SCRIPT LIGATURE ET ORNAMENTaLIGATURE OPEN ET ORNAMENT
  aHEAVY LIGATURE OPEN ET ORNAMENTgAMPERSAND ORNAMENTaSWASH AMPERSAND ORNAMENT
  bANS-SERIF HEAVY DOUBLE TURNED COMMA QUOTATION MARK ORNAMENTyCOMMA QUOTATION MARK ORNAMENT
  rLOW DOUBLE COMMA QUOTATION MARK ORNAMENTaHEAVY INTERROBANG ORNAMENT
  aSANS-SERIF INTERROBANG ORNAMENTaHEAVY SANS-SERIF INTERROBANG ORNAMENTaVERY HEAVY SOLIDUS
  lREVERSE SOLIDUSaCHECKER BOARDaREVERSE CHECKER BOARDbOCKETaHELICOPTERaSTEAM LOCOMOTIVEaRAILWAY CAR
  aHIGH-SPEED TRAINq WITH BULLET NOSEaTRAINaMETROaLIGHT RAILaSTATIONaTRAMe CARaBUSaONCOMING BUS
  aTROLLEYBUSaBUS STOPaMINIBUSaAMBULANCEaFIRE ENGINEaPOLICE CARaONCOMING POLICE CARaTAXI
  aONCOMING TAXIaAUTOMOBILEaONCOMING AUTOMOBILEaRECREATIONAL VEHICLEaDELIVERY TRUCK
  aARTICULATED LORRYaTRACTORaMONORAILcUNTAIN RAILWAYaSUSPENSION RAILWAYaMOUNTAIN CABLEWAY
  aAERIAL TRAMWAYaSHIPaROWBOATaSPEEDBOATaHORIZONTAL TRAFFIC LIGHTaVERTICAL TRAFFIC LIGHT
  aCONSTRUCTION SIGNaPOLICE CARS REVOLVING LIGHTaTRIANGULAR FLAG ON POSTaDOORaNO ENTRY SIGN
  aSMOKING SYMBOLaNO SMOKING SYMBOLaPUT LITTER IN ITS PLACE SYMBOLaDO NOT LITTER SYMBOL
  aPOTABLE WATER SYMBOLaNON-POTABLE WATER SYMBOLaBICYCLEaNO BICYCLESaBICYCLISTaMOUNTAIN BICYCLIST
  aPEDESTRIANaNO PEDESTRIANSaCHILDREN CROSSINGaMENS SYMBOLaWOMENS SYMBOLaRESTROOMaBABY SYMBOLaTOILET
  aWATER CLOSETaSHOWERaBATHeTUBaPASSPORT CONTROLaCUSTOMSaBAGGAGE CLAIMaLEFT LUGGAGE
  aTRIANGLE WITH ROUNDED CORNERSaPROHIBITED SIGNaCIRCLED INFORMATION SOURCEaBOYS SYMBOLaGIRLS SYMBOL
  aCOUCH AND LAMPaSLEEPING ACCOMMODATIONbHOPPING BAGSaBELLHOP BELLcDaPLACE OF WORSHIPaOCTAGONAL SIGN
  aSHOPPING TROLLEYbTUPAaPAGODAaHINDU TEMPLEbUTaELEVATORa+6+PLAYGROUND SLIDEaWHEELaRING BUOY
  aHAMMER AND WRENCHaSHIELDaOIL DRUMaMOTORWAYaRAILWAY TRACKaMOTOR BOATaUP-POINTING MILITARY AIRPLANE
  mAIRPLANEmSMALL AIRPLANEaSMALL AIRPLANEaNORTHEAST-POINTING AIRPLANEaAIRPLANE DEPARTUREjARRIVING
  a+4+SATELLITEaONCOMING FIRE ENGINEaDIESEL LOCOMOTIVEaPASSENGER SHIPaSCOOTERaMOTOR SCOOTERaCANOE
  aSLEDaFLYING SAUCERaSKATEBOARDaAUTO RICKSHAWaPICKUP TRUCKaROLLER SKATE
  a+4+ALCHEMICAL SYMBOL FOR QUINTESSENCEwAIRwFIREwEARTHwWATERwAQUAFORTISba REGIAbg-2bbVITAEbg-2
  wVINEGARbd-2be3wSULFURwPHILOSOPHERS SULFURwBLACK SULFURwMERCURY SUBLIMATEbn-2bo3wCINNABARwSALT
  wNITREwVITRIOLbd-2wROCK SALTbf-2wGOLDwSILVERwIRON OREbe-2wCROCUS OF IRONwREGULUS OF IRON
  wCOPPER OREwIRON-COPPER OREwSUBLIMATE OF COPPERwCROCUS OF COPPERbm-2xOPPER ANTIMONIATE
  wSALT OF COPPER ANTIMONIATExUBLIMATE OF SALT OF COPPERwVERDIGRISwTIN OREwLEAD OREwANTIMONY ORE
  wSUBLIMATE OF ANTIMONYxALT OF ANTIMONYxUBLIMATE OF SALT OF ANTIMONYwVINEGAR OF ANTIMONY
  wREGULUS OF ANTIMONYbp-2bd,bd-2be3be4wALKALIbc-2wMARCASITEwSAL-AMMONIACwARSENICwREALGARbd-2
  wAURIPIGMENTwBISMUTH OREwTARTARbc-2wQUICK LIMEwBORAXbb-2bc3wALUMwOILwSPIRITwTINCTUREwGUMwWAX
  wPOWDERwCALXwTUTTYwCAPUT MORTUUMwSCEPTER OF JOVEwCADUCEUSwTRIDENTwSTARRED TRIDENTwLODESTONEwSOAP
  wURINEwHORSE DUNGwASHESwPOT ASHESwBRICKwPOWDERED BRICKwAMALGAMwSTRATUM SUPER STRATUMbr-2
  xUBLIMATIONwPRECIPITATEwDISTILLzSOLVEbe-2wPURIFYyTREFACTIONwCRUCIBLEbe-2bf3bf4bf5wALEMBIC
  wBATH OF MARYbeVAPOURSwRETORTwHOURwNIGHTwDAY-NIGHTwMONTHwHALF DRAMbbOUNCE
  a+d+BLACK LEFT-POINTING ISOSCELES RIGHT TRIANGLEgUP-POINTING ISOSCELES RIGHT TRIANGLE
  gRIGHT-POINTING ISOSCELES RIGHT TRIANGLEgDOWN-POINTING ISOSCELES RIGHT TRIANGLE
  gSLIGHTLY SMALL CIRCLEaMEDIUM BOLD WHITE CIRCLEaBOLD WHITE CIRCLEaHEAVY WHITE CIRCLE
  aVERY HEAVY WHITE CIRCLEaEXTREMELY HEAVY WHITE CIRCLEaWHITE CIRCLE CONTAINING BLACK SMALL CIRCLE
  aROUND TARGETaBLACK TINY SQUAREgSLIGHTLY SMALL SQUAREaLIGHT WHITE SQUAREaMEDIUM WHITE SQUARE
  aBOLD WHITE SQUAREaHEAVY WHITE SQUAREaVERY HEAVY WHITE SQUAREaEXTREMELY HEAVY WHITE SQUARE
  aWHITE SQUARE CONTAINING BLACK VERY SMALL SQUAREbeMEDIUM SQUAREaSQUARE TARGETaBLACK TINY DIAMOND
  gVERY SMALL DIAMONDgMEDIUM SMALL DIAMONDaWHITE DIAMOND CONTAINING BLACK VERY SMALL DIAMOND
  bfMEDIUM DIAMONDaDIAMOND TARGETaBLACK TINY LOZENGEgVERY SMALL LOZENGEgMEDIUM SMALL LOZENGE
  aWHITE LOZENGE CONTAINING BLACK SMALL LOZENGEaTHIN GREEK CROSSaLIGHT GREEK CROSS
  aMEDIUM GREEK CROSSaBOLD GREEK CROSSaVERY BOLD GREEK CROSSfHEAVY GREEK CROSS
  aEXTREMELY HEAVY GREEK CROSSaTHIN SALTIREaLIGHT SALTIREaMEDIUM SALTIREaBOLD SALTIREaHEAVY SALTIRE
  aVERY HEAVY SALTIREaEXTREMELY HEAVY SALTIREaLIGHT FIVE SPOKED ASTERISKaMEDIUM FIVE SPOKED ASTERISK
  aBOLD FIVE SPOKED ASTERISKaHEAVY FIVE SPOKED ASTERISKaVERY HEAVY FIVE SPOKED ASTERISK
  aEXTREMELY HEAVY FIVE SPOKED ASTERISKaLIGHT SIX SPOKED ASTERISKaMEDIUM SIX SPOKED ASTERISK
  aBOLD SIX SPOKED ASTERISKaHEAVY SIX SPOKED ASTERISKaVERY HEAVY SIX SPOKED ASTERISK
  aEXTREMELY HEAVY SIX SPOKED ASTERISKaLIGHT EIGHT SPOKED ASTERISKaMEDIUM EIGHT SPOKED ASTERISK
  aBOLD EIGHT SPOKED ASTERISKaHEAVY EIGHT SPOKED ASTERISKaVERY HEAVY EIGHT SPOKED ASTERISK
  aLIGHT THREE POINTED BLACK STARaMEDIUM THREE POINTED BLACK STARaTHREE POINTED BLACK STAR
  aMEDIUM THREE POINTED PINWHEEL STARaLIGHT FOUR POINTED BLACK STARaMEDIUM FOUR POINTED BLACK STAR
  aFOUR POINTED BLACK STARaMEDIUM FOUR POINTED PINWHEEL STAR
  aREVERSE LIGHT FOUR POINTED PINWHEEL STARaLIGHT FIVE POINTED BLACK STAR
  aHEAVY FIVE POINTED BLACK STARaMEDIUM SIX POINTED BLACK STARaHEAVY SIX POINTED BLACK STAR
  aSIX POINTED PINWHEEL STARaMEDIUM EIGHT POINTED BLACK STARaHEAVY EIGHT POINTED BLACK STAR
  aVERY HEAVY EIGHT POINTED BLACK STARaHEAVY EIGHT POINTED PINWHEEL STAR
  aLIGHT TWELVE POINTED BLACK STARaHEAVY TWELVE POINTED BLACK STARvPINWHEEL STARaCIRCLED TRIANGLE
  aNEGATIVE CIRCLED TRIANGLEaCIRCLED SQUAREaNEGATIVE CIRCLED SQUAREa+8+LARGE ORANGE CIRCLE
  gYELLOW CIRCLEgGREEN CIRCLEgPURPLE CIRCLEgBROWN CIRCLEgRED SQUAREgBLUE SQUAREgORANGE SQUARE
  gYELLOW SQUAREgGREEN SQUAREgPURPLE SQUAREgBROWN SQUAREa+5+HEAVY EQUALS SIGN
  a+10+LEFTWARDS ARROW WITH SMALL TRIANGLE ARROWHEADaUPWARDS ARROW WITH SMALL TRIANGLE ARROWHEAD
  aRIGHTWARDS ARROW WITH SMALL TRIANGLE ARROWHEADaDOWNWARDS ARROW WITH SMALL TRIANGLE ARROWHEAD
  aLEFTWARDS ARROW WITH MEDIUM TRIANGLE ARROWHEADaUPWARDS ARROW WITH MEDIUM TRIANGLE ARROWHEAD
  aRIGHTWARDS ARROW WITH MEDIUM TRIANGLE ARROWHEADaDOWNWARDS ARROW WITH MEDIUM TRIANGLE ARROWHEAD
  aLEFTWARDS ARROW WITH LARGE TRIANGLE ARROWHEADaUPWARDS ARROW WITH LARGE TRIANGLE ARROWHEAD
  aRIGHTWARDS ARROW WITH LARGE TRIANGLE ARROWHEADaDOWNWARDS ARROW WITH LARGE TRIANGLE ARROWHEAD
  a+5+LEFTWARDS ARROW WITH SMALL EQUILATERAL ARROWHEAD
  aUPWARDS ARROW WITH SMALL EQUILATERAL ARROWHEADaRIGHTWARDS ARROW WITH SMALL EQUILATERAL ARROWHEAD
  aDOWNWARDS ARROW WITH SMALL EQUILATERAL ARROWHEADaLEFTWARDS ARROW WITH EQUILATERAL ARROWHEAD
  aUPWARDS ARROW WITH EQUILATERAL ARROWHEADaRIGHTWARDS ARROW WITH EQUILATERAL ARROWHEAD
  aDOWNWARDS ARROW WITH EQUILATERAL ARROWHEADaHEAVY LEFTWARDS ARROW WITH EQUILATERAL ARROWHEAD
  gUPWARDS ARROW WITH EQUILATERAL ARROWHEADgRIGHTWARDS ARROW WITH EQUILATERAL ARROWHEAD
  gDOWNWARDS ARROW WITH EQUILATERAL ARROWHEADgLEFTWARDS ARROW WITH LARGE EQUILATERAL ARROWHEAD
  gUPWARDS ARROW WITH LARGE EQUILATERAL ARROWHEADgRIGHTWARDS ARROW WITH LARGE EQUILATERAL ARROWHEAD
  gDOWNWARDS ARROW WITH LARGE EQUILATERAL ARROWHEAD
  aLEFTWARDS TRIANGLE-HEADED ARROW WITH NARROW SHAFTaUPWARDS TRIANGLE-HEADED ARROW WITH NARROW SHAFT
  aRIGHTWARDS TRIANGLE-HEADED ARROW WITH NARROW SHAFT
  aDOWNWARDS TRIANGLE-HEADED ARROW WITH NARROW SHAFT
  aLEFTWARDS TRIANGLE-HEADED ARROW WITH MEDIUM SHAFTaUPWARDS TRIANGLE-HEADED ARROW WITH MEDIUM SHAFT
  aRIGHTWARDS TRIANGLE-HEADED ARROW WITH MEDIUM SHAFT
  aDOWNWARDS TRIANGLE-HEADED ARROW WITH MEDIUM SHAFTaLEFTWARDS TRIANGLE-HEADED ARROW WITH BOLD SHAFT
  aUPWARDS TRIANGLE-HEADED ARROW WITH BOLD SHAFTaRIGHTWARDS TRIANGLE-HEADED ARROW WITH BOLD SHAFT
  aDOWNWARDS TRIANGLE-HEADED ARROW WITH BOLD SHAFTaLEFTWARDS TRIANGLE-HEADED ARROW WITH HEAVY SHAFT
  aUPWARDS TRIANGLE-HEADED ARROW WITH HEAVY SHAFTaRIGHTWARDS TRIANGLE-HEADED ARROW WITH HEAVY SHAFT
  aDOWNWARDS TRIANGLE-HEADED ARROW WITH HEAVY SHAFT
  aLEFTWARDS TRIANGLE-HEADED ARROW WITH VERY HEAVY SHAFT
  aUPWARDS TRIANGLE-HEADED ARROW WITH VERY HEAVY SHAFT
  aRIGHTWARDS TRIANGLE-HEADED ARROW WITH VERY HEAVY SHAFT
  aDOWNWARDS TRIANGLE-HEADED ARROW WITH VERY HEAVY SHAFTaLEFTWARDS FINGER-POST ARROW
  aUPWARDS FINGER-POST ARROWaRIGHTWARDS FINGER-POST ARROWaDOWNWARDS FINGER-POST ARROW
  aLEFTWARDS SQUARED ARROWaUPWARDS SQUARED ARROWaRIGHTWARDS SQUARED ARROWaDOWNWARDS SQUARED ARROW
  aLEFTWARDS COMPRESSED ARROWaUPWARDS COMPRESSED ARROWaRIGHTWARDS COMPRESSED ARROW
  aDOWNWARDS COMPRESSED ARROWaLEFTWARDS HEAVY COMPRESSED ARROWaUPWARDS HEAVY COMPRESSED ARROW
  aRIGHTWARDS HEAVY COMPRESSED ARROWaDOWNWARDS HEAVY COMPRESSED ARROWaLEFTWARDS HEAVY ARROW
  aUPWARDS HEAVY ARROWaRIGHTWARDS HEAVY ARROWaDOWNWARDS HEAVY ARROWa+9+LEFTWARDS SANS-SERIF ARROW
  aUPWARDS SANS-SERIF ARROWaRIGHTWARDS SANS-SERIF ARROWaDOWNWARDS SANS-SERIF ARROW
  aNORTH WEST SANS-SERIF ARROWgEAST SANS-SERIF ARROWaSOUTH EAST SANS-SERIF ARROW
  gWEST SANS-SERIF ARROWaLEFT RIGHT SANS-SERIF ARROWaUP DOWN SANS-SERIF ARROW
  a+7+WIDE-HEADED LEFTWARDS LIGHT BARB ARROWmUPWARDS LIGHT BARB ARROWmRIGHTWARDS LIGHT BARB ARROW
  mDOWNWARDS LIGHT BARB ARROWmNORTH WEST LIGHT BARB ARROWsEAST LIGHT BARB ARROW
  mSOUTH EAST LIGHT BARB ARROWsWEST LIGHT BARB ARROWmLEFTWARDS BARB ARROWmUPWARDS BARB ARROW
  mRIGHTWARDS BARB ARROWmDOWNWARDS BARB ARROWmNORTH WEST BARB ARROWsEAST BARB ARROW
  mSOUTH EAST BARB ARROWsWEST BARB ARROWmLEFTWARDS MEDIUM BARB ARROWmUPWARDS MEDIUM BARB ARROW
  mRIGHTWARDS MEDIUM BARB ARROWmDOWNWARDS MEDIUM BARB ARROWmNORTH WEST MEDIUM BARB ARROW
  sEAST MEDIUM BARB ARROWmSOUTH EAST MEDIUM BARB ARROWsWEST MEDIUM BARB ARROW
  mLEFTWARDS HEAVY BARB ARROWmUPWARDS HEAVY BARB ARROWmRIGHTWARDS HEAVY BARB ARROW
  mDOWNWARDS HEAVY BARB ARROWmNORTH WEST HEAVY BARB ARROWsEAST HEAVY BARB ARROW
  mSOUTH EAST HEAVY BARB ARROWsWEST HEAVY BARB ARROWmLEFTWARDS VERY HEAVY BARB ARROW
  mUPWARDS VERY HEAVY BARB ARROWmRIGHTWARDS VERY HEAVY BARB ARROWmDOWNWARDS VERY HEAVY BARB ARROW
  mNORTH WEST VERY HEAVY BARB ARROWsEAST VERY HEAVY BARB ARROWmSOUTH EAST VERY HEAVY BARB ARROW
  sWEST VERY HEAVY BARB ARROWa+9+LEFTWARDS TRIANGLE ARROWHEADaUPWARDS TRIANGLE ARROWHEAD
  aRIGHTWARDS TRIANGLE ARROWHEADaDOWNWARDS TRIANGLE ARROWHEAD
  aLEFTWARDS WHITE ARROW WITHIN TRIANGLE ARROWHEADaUPWARDS WHITE ARROW WITHIN TRIANGLE ARROWHEAD
  aRIGHTWARDS WHITE ARROW WITHIN TRIANGLE ARROWHEADaDOWNWARDS WHITE ARROW WITHIN TRIANGLE ARROWHEAD
  aLEFTWARDS ARROW WITH NOTCHED TAILaUPWARDS ARROW WITH NOTCHED TAIL
  aRIGHTWARDS ARROW WITH NOTCHED TAILaDOWNWARDS ARROW WITH NOTCHED TAILaHEAVY ARROW SHAFT WIDTH ONE
  yTWO THIRDSyONE HALFbcTHIRDaLEFTWARDS BOTTOM-SHADED WHITE ARROW
  aRIGHTWARDS BOTTOM SHADED WHITE ARROWaLEFTWARDS TOP SHADED WHITE ARROW
  aRIGHTWARDS TOP SHADED WHITE ARROWaLEFTWARDS LEFT-SHADED WHITE ARROW
  aRIGHTWARDS RIGHT-SHADED WHITE ARROWaLEFTWARDS RIGHT-SHADED WHITE ARROW
  aRIGHTWARDS LEFT-SHADED WHITE ARROWaLEFTWARDS BACK-TILTED SHADOWED WHITE ARROW
  aRIGHTWARDS BACK-TILTED SHADOWED WHITE ARROWaLEFTWARDS FRONT-TILTED SHADOWED WHITE ARROW
  aRIGHTWARDS FRONT-TILTED SHADOWED WHITE ARROWaWHITE ARROW SHAFT WIDTH ONEyTWO THIRDS
  a+3+ARROW POINTING UPWARDS THEN NORTH WESTpRIGHTWARDS THEN CURVING SOUTH WEST
  a+4f+CIRCLED CROSS FORMEE WITH FOUR DOTSbaTWO DOTSu,aLEFT HALF CIRCLE WITH FOUR DOTSwTHREE DOTS
  xWO DOTSwDOTq,aDOWNWARD FACING HOOKqNOTCHED HOOKqHOOK WITH DOTqNOTCHED HOOK WITH DOT
  aPINCHED FINGERSaWHITE HEARTaBROWN HEARTaPINCHING HANDaZIPPER-MOUTH FACEaMONEY-MOUTH FACE
  aFACE WITH THERMOMETERaNERD FACEaTHINKING FACEaFACE WITH HEAD-BANDAGEaROBOT FACEaHUGGING FACE
  aSIGN OF THE HORNSaCALL ME HANDaRAISED BACK OF HANDaLEFT-FACING FISTaRIGHT-FACING FISTaHANDSHAKE
  e WITH INDEX AND MIDDLE FINGERS CROSSEDaI LOVE YOU HAND SIGNaFACE WITH COWBOY HATaCLOWN FACE
  aNAUSEATED FACEaROLLING ON THE FLOOR LAUGHINGaDROOLING FACEaLYING FACEaFACE PALMaSNEEZING FACE
  aFACE WITH ONE EYEBROW RAISEDaGRINNING FACE WITH STAR EYEStONE LARGE AND ONE SMALL EYE
  aFACE WITH FINGER COVERING CLOSED LIPSaSERIOUS FACE WITH SYMBOLS COVERING MOUTH
  bMILING FACE WITH SMILING EYES AND HAND COVERING MOUTHaFACE WITH OPEN MOUTH VOMITING
  aSHOCKED FACE WITH EXPLODING HEADaPREGNANT WOMANaBREAST-FEEDINGaPALMS UP TOGETHERaSELFIEaPRINCE
  aMAN IN TUXEDObOTHER CHRISTMASaSHRUGaPERSON DOING CARTWHEELaJUGGLINGaFENCERaMODERN PENTATHLON
  aWRESTLERSbATER POLOaHANDBALLaDIVING MASKaWILTED FLOWERaDRUM WITH DRUMSTICKSaCLINKING GLASSES
  aTUMBLER GLASSaSPOONaGOAL NETaRIFLEaFIRST PLACE MEDALaSECOND PLACE MEDALaTHIRD PLACE MEDAL
  aBOXING GLOVEaMARTIAL ARTS UNIFORMaCURLING STONEaLACROSSE STICK AND BALLaSOFTBALLaFLYING DISC
  aCROISSANTaAVOCADOaCUCUMBERaBACONaPOTATOaCARROTaBAGUETTE BREADaGREEN SALADaSHALLOW PAN OF FOOD
  bTUFFED FLATBREADaEGGaGLASS OF MILKaPEANUTSaKIWIFRUITaPANCAKESaDUMPLINGaFORTUNE COOKIEaTAKEOUT BOX
  aCHOPSTICKSaBOWL WITH SPOONaCUP WITH STRAWbOCONUTaBROCCOLIaPIEbRETZELaCUT OF MEATaSANDWICH
  aCANNED FOODaLEAFY GREENaMANGObOON CAKEaBAGELaSMILING FACE WITH SMILING EYES AND THREE HEARTS
  aYAWNING FACEaSMILING FACE WITH TEARaFACE WITH PARTY HORN AND PARTY HATkUNEVEN EYES AND WAVY MOUTH
  aOVERHEATED FACEaFREEZING FACEaNINJAaDISGUISED FACEaFACE HOLDING BACK TEARSfWITH PLEADING EYES
  aSARIaLAB COATaGOGGLESaHIKING BOOTaFLAT SHOEaCRABaLION FACEaSCORPIONaTURKEYaUNICORN FACEaEAGLE
  aDUCKaBATaSHARKaOWLaFOX FACEaBUTTERFLYaDEERaGORILLAaLIZARDaRHINOCEROSaSHRIMPbQUIDaGIRAFFE FACE
  aZEBRA FACEaHEDGEHOGaSAUROPODaT-REXaCRICKETaKANGAROOaLLAMAaPEACOCKaHIPPOPOTAMUSaPARROTaRACCOON
  aLOBSTERaMOSQUITObICROBEaBADGERaSWANaMAMMOTHaDODOaSLOTHaOTTERbRANGUTANaSKUNKaFLAMINGOaOYSTER
  aBEAVERbISONaSEALaGUIDE DOGaPROBING CANEaEMOJI COMPONENT RED HAIRqCURLY HAIRqBALDqWHITE HAIRaBONE
  aLEGaFOOTaTOOTHaSUPERHEROfVILLAINbAFETY VESTaEAR WITH HEARING AIDaMOTORIZED WHEELCHAIR
  bANUAL WHEELCHAIRbECHANICAL ARMlLEGaCHEESE WEDGEbUPCAKEaSALT SHAKERaBEVERAGE BOXaGARLICaONION
  aFALAFELaWAFFLEaBUTTERaMATE DRINKaICE CUBEaBUBBLE TEAaTROLLaSTANDING PERSONaKNEELING PERSON
  aDEAF PERSONaFACE WITH MONOCLEaADULTaCHILDaOLDER ADULTaBEARDED PERSONaPERSON WITH HEADSCARF
  hIN STEAMY ROOMhCLIMBINGhIN LOTUS POSITIONaMAGEaFAIRYaVAMPIREaMERPERSONaELFaGENIEaZOMBIEaBRAIN
  aORANGE HEARTaBILLED CAPaSCARFaGLOVESaCOATaSOCKSaRED GIFT ENVELOPEaFIRECRACKERaJIGSAW PUZZLE PIECE
  aTEST TUBEaPETRI DISHaDNA DOUBLE HELIXaCOMPASSaABACUSaFIRE EXTINGUISHERaTOOLBOXaBRICKaMAGNET
  aLUGGAGEbOTION BOTTLEaSPOOL OF THREADaBALL OF YARNaSAFETY PINaTEDDY BEARaBROOMbASKETaROLL OF PAPER
  aBAR OF SOAPaSPONGEaRECEIPTaNAZAR AMULETbEUTRAL CHESS KINGoQUEENoROOKoBISHOPoKNIGHToPAWN
  aWHITE CHESS KNIGHT ROTATED FORTY-FIVE DEGREESaBLACK CHESS KNIGHT ROTATED FORTY-FIVE DEGREES
  aNEUTRAL CHESS KNIGHT ROTATED FORTY-FIVE DEGREESaWHITE CHESS KING ROTATED NINETY DEGREES
  mQUEEN ROTATED NINETY DEGREESmROOK ROTATED NINETY DEGREESmBISHOP ROTATED NINETY DEGREES
  mKNIGHT ROTATED NINETY DEGREESmPAWN ROTATED NINETY DEGREESaBLACK CHESS KING ROTATED NINETY DEGREES
  mQUEEN ROTATED NINETY DEGREESmROOK ROTATED NINETY DEGREESmBISHOP ROTATED NINETY DEGREES
  mKNIGHT ROTATED NINETY DEGREESmPAWN ROTATED NINETY DEGREES
  aNEUTRAL CHESS KING ROTATED NINETY DEGREESoQUEEN ROTATED NINETY DEGREES
  oROOK ROTATED NINETY DEGREESoBISHOP ROTATED NINETY DEGREESoKNIGHT ROTATED NINETY DEGREES
  oPAWN ROTATED NINETY DEGREESaWHITE CHESS KNIGHT ROTATED ONE HUNDRED THIRTY-FIVE DEGREES
  aBLACK CHESS KNIGHT ROTATED ONE HUNDRED THIRTY-FIVE DEGREES
  aNEUTRAL CHESS KNIGHT ROTATED ONE HUNDRED THIRTY-FIVE DEGREESaWHITE CHESS TURNED KINGtQUEENtROOK
  tBISHOPtKNIGHTtPAWNaBLACK CHESS TURNED KINGtQUEENtROOKtBISHOPtKNIGHTtPAWN
  aNEUTRAL CHESS TURNED KINGvQUEENvROOKvBISHOPvKNIGHTvPAWN
  aWHITE CHESS KNIGHT ROTATED TWO HUNDRED TWENTY-FIVE DEGREES
  aBLACK CHESS KNIGHT ROTATED TWO HUNDRED TWENTY-FIVE DEGREES
  aNEUTRAL CHESS KNIGHT ROTATED TWO HUNDRED TWENTY-FIVE DEGREES
  aWHITE CHESS KING ROTATED TWO HUNDRED SEVENTY DEGREESmQUEEN ROTATED TWO HUNDRED SEVENTY DEGREES
  mROOK ROTATED TWO HUNDRED SEVENTY DEGREESmBISHOP ROTATED TWO HUNDRED SEVENTY DEGREES
  mKNIGHT ROTATED TWO HUNDRED SEVENTY DEGREESmPAWN ROTATED TWO HUNDRED SEVENTY DEGREES
  aBLACK CHESS KING ROTATED TWO HUNDRED SEVENTY DEGREESmQUEEN ROTATED TWO HUNDRED SEVENTY DEGREES
  mROOK ROTATED TWO HUNDRED SEVENTY DEGREESmBISHOP ROTATED TWO HUNDRED SEVENTY DEGREES
  mKNIGHT ROTATED TWO HUNDRED SEVENTY DEGREESmPAWN ROTATED TWO HUNDRED SEVENTY DEGREES
  aNEUTRAL CHESS KING ROTATED TWO HUNDRED SEVENTY DEGREESoQUEEN ROTATED TWO HUNDRED SEVENTY DEGREES
  oROOK ROTATED TWO HUNDRED SEVENTY DEGREESoBISHOP ROTATED TWO HUNDRED SEVENTY DEGREES
  oKNIGHT ROTATED TWO HUNDRED SEVENTY DEGREESoPAWN ROTATED TWO HUNDRED SEVENTY DEGREES
  aWHITE CHESS KNIGHT ROTATED THREE HUNDRED FIFTEEN DEGREES
  aBLACK CHESS KNIGHT ROTATED THREE HUNDRED FIFTEEN DEGREES
  aNEUTRAL CHESS KNIGHT ROTATED THREE HUNDRED FIFTEEN DEGREESaWHITE CHESS EQUIHOPPER
  aBLACK CHESS EQUIHOPPERaNEUTRAL CHESS EQUIHOPPERaWHITE CHESS EQUIHOPPER ROTATED NINETY DEGREES
  aBLACK CHESS EQUIHOPPER ROTATED NINETY DEGREESaNEUTRAL CHESS EQUIHOPPER ROTATED NINETY DEGREES
  aWHITE CHESS KNIGHT-QUEENtROOKtBISHOPaBLACK CHESS KNIGHT-QUEENtROOKtBISHOPa+d+XIANGQI RED GENERAL
  mMANDARINmELEPHANTmHORSEmCHARIOTnANNONmSOLDIERiBLACK GENERALoMANDARINoELEPHANToHORSEoCHARIOTpANNON
  oSOLDIERa+3+BALLET SHOESaONE-PIECE SWIMSUITaBRIEFSaSHORTSaTHONG SANDALa+4+DROP OF BLOOD
  aADHESIVE BANDAGEaSTETHOSCOPEaX-RAYaCRUTCHa+4+YO-YOaKITEaPARACHUTEaBOOMERANGaMAGIC WANDaPINATA
  aNESTING DOLLSa+a+RINGED PLANETaCHAIRaRAZORaAXEaDIYA LAMPaBANJOaMILITARY HELMETaACCORDION
  aLONG DRUMaCOINbARPENTRY SAWaSCREWDRIVERaLADDERaHOOKaMIRRORaWINDOWaPLUNGERaSEWING NEEDLEaKNOT
  aBUCKETaMOUSE TRAPaTOOTHBRUSHaHEADSTONEaPLACARDaROCKaMIRROR BALLaIDENTIFICATION CARDaLOW BATTERY
  aHAMSAa+4+FLYaWORMaBEETLEaCOCKROACHaPOTTED PLANTaWOODaFEATHERaLOTUSaCORALaEMPTY NEST
  aNEST WITH EGGSa+6+ANATOMICAL HEARTaLUNGSaPEOPLE HUGGINGbREGNANT MANjPERSONbERSON WITH CROWN
  a+b+BLUEBERRIESbELL PEPPERaOLIVEaFLATBREADaTAMALEaFONDUEaTEAPOTaPOURING LIQUIDaBEANSaJAR
  a+7+MELTING FACEaSALUTING FACEaFACE WITH OPEN EYES AND HAND OVER MOUTHkPEEKING EYEkDIAGONAL MOUTH
  aDOTTED LINE FACEaBITING LIPbUBBLESa+9+HAND WITH INDEX FINGER AND THUMB CROSSEDaRIGHTWARDS HAND
  aLEFTWARDS HANDaPALM DOWN HANDfUP HANDaINDEX POINTING AT THE VIEWERaHEART HANDSa+a+BLOCK SEXTANT-1
  o2o12o3o13o23o123o4o14o24o124o34o134o234o1234o5o15o25o125o35o235o1235o45o145o245o1245o345o1345
  o2345o12345o6o16o26o126o36o136o236o1236o46o146p246o346o1346o2346o12346o56o156o256o1256o356o1356
  o2356o12356o456o1456o2456o12456o3456o13456o23456
  aLOWER LEFT BLOCK DIAGONAL LOWER MIDDLE LEFT TO LOWER CENTREcbRIGHT
  baUPPER MIDDLE LEFT TO LOWER CENTREcbRIGHTbgLEFT TO LOWER CENTRE
  gRIGHT BLOCK DIAGONAL UPPER MIDDLE LEFT TO UPPER CENTREccRIGHTbbLOWER MIDDLE LEFT TO UPPER CENTRE
  ccRIGHTbhLEFT TO UPPER CENTREbhMIDDLE LEFT TO UPPER MIDDLE RIGHTbhCENTRE TO LOWER MIDDLE RIGHT
  bhLEFT TO LOWER MIDDLE RIGHTbhCENTRE TO UPPER MIDDLE RIGHTbhLEFT TO UPPER MIDDLE RIGHT
  bhCENTRE TO UPPER RIGHTgLEFT BLOCK DIAGONAL UPPER CENTRE TO UPPER MIDDLE RIGHT
  bgLEFT TO UPPER MIDDLE RIGHTbgCENTRE TO LOWER MIDDLE RIGHTbgLEFT TO LOWER MIDDLE RIGHT
  bgCENTRE TO LOWER RIGHTbgMIDDLE LEFT TO LOWER MIDDLE RIGHT
  aUPPER RIGHT BLOCK DIAGONAL LOWER MIDDLE LEFT TO LOWER CENTREccRIGHT
  bbUPPER MIDDLE LEFT TO LOWER CENTREccRIGHTbhLEFT TO LOWER CENTRE
  gLEFT BLOCK DIAGONAL UPPER MIDDLE LEFT TO UPPER CENTREcbRIGHTbaLOWER MIDDLE LEFT TO UPPER CENTRE
  cbRIGHTbgLEFT TO UPPER CENTREbgMIDDLE LEFT TO UPPER MIDDLE RIGHTbgCENTRE TO LOWER MIDDLE RIGHT
  bgLEFT TO LOWER MIDDLE RIGHTbgCENTRE TO UPPER MIDDLE RIGHTbgLEFT TO UPPER MIDDLE RIGHT
  bgCENTRE TO UPPER RIGHTgRIGHT BLOCK DIAGONAL UPPER CENTRE TO UPPER MIDDLE RIGHT
  bhLEFT TO UPPER MIDDLE RIGHTbhCENTRE TO LOWER MIDDLE RIGHTbhLEFT TO LOWER MIDDLE RIGHT
  bhCENTRE TO LOWER RIGHTbhMIDDLE LEFT TO LOWER MIDDLE RIGHT
  gAND RIGHT AND LOWER TRIANGULAR THREE QUARTERS BLOCK
  aLEFT AND LOWER AND RIGHT TRIANGULAR THREE QUARTERS BLOCK
  aUPPER AND LEFT AND LOWER TRIANGULAR THREE QUARTERS BLOCK
  aLEFT AND UPPER AND RIGHT TRIANGULAR THREE QUARTERS BLOCKfTRIANGULAR ONE QUARTER BLOCK
  aUPPER TRIANGULAR ONE QUARTER BLOCKaRIGHT TRIANGULAR ONE QUARTER BLOCK
  aLOWER TRIANGULAR ONE QUARTER BLOCKaVERTICAL ONE EIGHTH BLOCK-2ba3ba4ba5ba6ba7
  aHORIZONTAL ONE EIGHTH BLOCK-2bc3bc4bc5bc6bc7aLEFT AND LOWER ONE EIGHTH BLOCK
  jUPPER ONE EIGHTH BLOCKaRIGHT AND UPPER ONE EIGHTH BLOCKkLOWER ONE EIGHTH BLOCK
  aUPPER AND LOWER ONE EIGHTH BLOCKaHORIZONTAL ONE EIGHTH BLOCK-1358aUPPER ONE QUARTER BLOCK
  gTHREE EIGHTHS BLOCKgFIVE EIGHTHS BLOCKgTHREE QUARTERS BLOCKgSEVEN EIGHTHS BLOCK
  aRIGHT ONE QUARTER BLOCKgTHREE EIGHTHS BLOCKgFIVE EIGHTHS BLOCKgTHREE QUARTERS BLOCK
  gSEVEN EIGHTHS BLOCKaLEFT HALF MEDIUM SHADEaRIGHT HALF MEDIUM SHADEaUPPER HALF MEDIUM SHADE
  aLOWER HALF MEDIUM SHADEaINVERSE MEDIUM SHADEaUPPER HALF BLOCK AND LOWER HALF INVERSE MEDIUM SHADE
  lINVERSE MEDIUM SHADE AND LOWER HALF BLOCKa+2+LEFT HALF INVERSE MEDIUM SHADE AND RIGHT HALF BLOCK
  aCHECKER BOARD FILLaINVERSE CHECKER BOARD FILLaHEAVY HORIZONTAL FILL
  aUPPER LEFT TO LOWER RIGHT FILLgRIGHT TO LOWER LEFT FILLgAND LOWER TRIANGULAR HALF BLOCK
  aLEFT AND RIGHT TRIANGULAR HALF BLOCKaUPPER LEFT TRIANGULAR MEDIUM SHADE
  gRIGHT TRIANGULAR MEDIUM SHADEaLOWER RIGHT TRIANGULAR MEDIUM SHADEgLEFT TRIANGULAR MEDIUM SHADE
  aBOX DRAWINGS LIGHT DIAGONAL UPPER CENTRE TO MIDDLE LEFTbzRIGHTbcMIDDLE LEFT TO LOWER CENTRE
  bjRIGHT TO LOWER CENTREbcUPPER CENTRE TO MIDDLE LEFT TO LOWER CENTREbzRIGHT TO LOWER CENTRE
  bcMIDDLE LEFT TO LOWER CENTRE TO MIDDLE RIGHTbrUPPER CENTRE TO MIDDLE RIGHT
  bcUPPER CENTRE TO MIDDLE LEFT AND MIDDLE RIGHT TO LOWER CENTRE
  bzRIGHT AND MIDDLE LEFT TO LOWER CENTREcfTO LOWER CENTRE TO MIDDLE LEFT
  bzLEFT TO LOWER CENTRE TO MIDDLE RIGHT
  bcMIDDLE LEFT TO UPPER CENTRE TO MIDDLE RIGHT TO LOWER CENTRE
  bjRIGHT TO UPPER CENTRE TO MIDDLE LEFT TO LOWER CENTREbcDIAMONDtHORIZONTAL WITH VERTICAL STROKE
  aARROWHEAD-SHAPED POINTERaINVERSE CHECK MARKaLEFT HALF RUNNING MANaRIGHT HALF RUNNING MAN
  aINVERSE DOWNWARDS ARROW WITH TIP LEFTWARDSaLEFTWARDS ARROW AND UPPER AND LOWER ONE EIGHTH BLOCK
  aRIGHTWARDS ARROW AND UPPER AND LOWER ONE EIGHTH BLOCKaDOWNWARDS ARROW AND RIGHT ONE EIGHTH BLOCK
  aUPWARDS ARROW AND RIGHT ONE EIGHTH BLOCKaLEFT HALF FOLDERaRIGHT HALF FOLDERaVOIDED GREEK CROSS
  aRIGHT OPEN SQUARED DOTaNEGATIVE DIAGONAL CROSSsMIDDLE RIGHT TO LOWER CENTREsDIAMOND
  aWHITE HEAVY SALTIRE WITH ROUNDED CORNERSaLEFT THIRD WHITE RIGHT POINTING INDEX
  aMIDDLE THIRD WHITE RIGHT POINTING INDEXaRIGHT THIRD WHITE RIGHT POINTING INDEX
  aNEGATIVE SQUARED QUESTION MARKaSTICK FIGUREm WITH ARMS RAISEDnLEANING LEFTvRIGHTnWITH DRESS
  aWHITE UP-POINTING CHEVRONa+26+SEGMENTED DIGIT ZEROqONEqTWOrHREEqFOURrIVEqSIXrEVENqEIGHTqNINE
  a+fc07+CJK COMPATIBILITY IDEOGRAPH-2F800bg1bg2bg3bg4bg5bg6bg7bg8bg9bgAbgBbgCbgDbgEbgFbf10bg1bg2bg3
  bg4bg5bg6bg7bg8bg9bgAbgBbgCbgDbgEbgFbf20bg1bg2bg3bg4bg5bg6bg7bg8bg9bgAbgBbgCbgDbgEbgFbf30bg1bg2bg3
  bg4bg5bg6bg7bg8bg9bgAbgBbgCbgDbgEbgFbf40bg1bg2bg3bg4bg5bg6bg7bg8bg9bgAbgBbgCbgDbgEbgFbf50bg1bg2bg3
  bg4bg5bg6bg7bg8bg9bgAbgBbgCbgDbgEbgFbf60bg1bg2bg3bg4bg5bg6bg7bg8bg9bgAbgBbgCbgDbgEbgFbf70bg1bg2bg3
  bg4bg5bg6bg7bg8bg9bgAbgBbgCbgDbgEbgFbf80bg1bg2bg3bg4bg5bg6bg7bg8bg9bgAbgBbgCbgDbgEbgFbf90bg1bg2bg3
  bg4bg5bg6bg7bg8bg9bgAbgBbgCbgDbgEbgFbfA0bg1bg2bg3bg4bg5bg6bg7bg8bg9bgAbgBbgCbgDbgEbgFbfB0bg1bg2bg3
  bg4bg5bg6bg7bg8bg9bgAbgBbgCbgDbgEbgFbfC0bg1bg2bg3bg4bg5bg6bg7bg8bg9bgAbgBbgCbgDbgEbgFbfD0bg1bg2bg3
  bg4bg5bg6bg7bg8bg9bgAbgBbgCbgDbgEbgFbfE0bg1bg2bg3bg4bg5bg6bg7bg8bg9bgAbgBbgCbgDbgEbgFbfF0bg1bg2bg3
  bg4bg5bg6bg7bg8bg9bgAbgBbgCbgDbgEbgFbe900bg1bg2bg3bg4bg5bg6bg7bg8bg9bgAbgBbgCbgDbgEbgFbf10bg1bg2
  bg3bg4bg5bg6bg7bg8bg9bgAbgBbgCbgDbgEbgFbf20bg1bg2bg3bg4bg5bg6bg7bg8bg9bgAbgBbgCbgDbgEbgFbf30bg1bg2
  bg3bg4bg5bg6bg7bg8bg9bgAbgBbgCbgDbgEbgFbf40bg1bg2bg3bg4bg5bg6bg7bg8bg9bgAbgBbgCbgDbgEbgFbf50bg1bg2
  bg3bg4bg5bg6bg7bg8bg9bgAbgBbgCbgDbgEbgFbf60bg1bg2bg3bg4bg5bg6bg7bg8bg9bgAbgBbgCbgDbgEbgFbf70bg1bg2
  bg3bg4bg5bg6bg7bg8bg9bgAbgBbgCbgDbgEbgFbf80bg1bg2bg3bg4bg5bg6bg7bg8bg9bgAbgBbgCbgDbgEbgFbf90bg1bg2
  bg3bg4bg5bg6bg7bg8bg9bgAbgBbgCbgDbgEbgFbfA0bg1bg2bg3bg4bg5bg6bg7bg8bg9bgAbgBbgCbgDbgEbgFbfB0bg1bg2
  bg3bg4bg5bg6bg7bg8bg9bgAbgBbgCbgDbgEbgFbfC0bg1bg2bg3bg4bg5bg6bg7bg8bg9bgAbgBbgCbgDbgEbgFbfD0bg1bg2
  bg3bg4bg5bg6bg7bg8bg9bgAbgBbgCbgDbgEbgFbfE0bg1bg2bg3bg4bg5bg6bg7bg8bg9bgAbgBbgCbgDbgEbgFbfF0bg1bg2
  bg3bg4bg5bg6bg7bg8bg9bgAbgBbgCbgDbgEbgFbeA00bg1bg2bg3bg4bg5bg6bg7bg8bg9bgAbgBbgCbgDbgEbgFbf10bg1
  bg2bg3bg4bg5bg6bg7bg8bg9bgAbgBbgCbgDa+b05e4+LANGUAGE TAGa+1f+TAG SPACEeEXCLAMATION MARK
  eQUOTATION MARKeNUMBER SIGNeDOLLAR SIGNePERCENT SIGNeAMPERSANDfPOSTROPHEeLEFT PARENTHESIS
  eRIGHT PARENTHESISeASTERISKePLUS SIGNeCOMMAeHYPHEN-MINUSeFULL STOPeSOLIDUSeDIGIT ZEROkONEkTWOlHREE
  kFOURlIVEkSIXlEVENkEIGHTkNINEeCOLONeSEMICOLONeLESS-THAN SIGNeEQUALS SIGNeGREATER-THAN SIGN
  eQUESTION MARKeCOMMERCIAL ATeLATIN CAPITAL LETTER AzBzCzDzEzFzGzHzIzJzKzLzMzNzOzPzQzRzSzTzUzVzWzX
  zYzZfEFT SQUARE BRACKETeREVERSE SOLIDUSfIGHT SQUARE BRACKETeCIRCUMFLEX ACCENTeLOW LINE
  eGRAVE ACCENTeLATIN SMALL LETTER AxBxCxDxExFxGxHxIxJxKxLxMxNxOxPxQxRxSxTxUxVxWxXxYxZ
  fEFT CURLY BRACKETeVERTICAL LINEeRIGHT CURLY BRACKETeTILDEaCANCEL TAGa+81+VARIATION SELECTOR-17u8
  u9t20u1u2u3u4u5u6u7u8u9t30u1u2u3u4u5u6u7u8u9t40u1u2u3u4u5u6u7u8u9t50u1u2u3u4u5u6u7u8u9t60u1u2u3u4
  u5u6u7u8u9t70u1u2u3u4u5u6u7u8u9t80u1u2u3u4u5u6u7u8u9t90u1u2u3u4u5u6u7u8u9t100v1v2v3v4v5v6v7v8v9u10
  v1v2v3v4v5v6v7v8v9u20v1v2v3v4v5v6v7v8v9u30v1v2v3v4v5v6v7v8v9u40v1v2v3v4v5v6v7v8v9u50v1v2v3v4v5v6v7
  v8v9u60v1v2v3v4v5v6v7v8v9u70v1v2v3v4v5v6v7v8v9u80v1v2v3v4v5v6v7v8v9u90v1v2v3v4v5v6v7v8v9t200v1v2v3
  v4v5v6v7v8v9u10v1v2v3v4v5v6v7v8v9u20v1v2v3v4v5v6v7v8v9u30v1v2v3v4v5v6v7v8v9u40v1v2v3v4v5v6v7v8v9
  u50v1v2v3v4v5v6
  "

end BoundQuery.Text.CharacterName
